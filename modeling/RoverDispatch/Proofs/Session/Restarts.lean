import RoverDispatch.Proofs.Session.Conversations
import RoverDispatch.Proofs.Session.Transfers

/-!
# Restarts of a Mission

How often an agent can start the mission of one supervisor.

An agent keeps nothing of a session that has closed. Copies of the hello and of
the transfer can still be under way then, and when they arrive, a session opens
and the mission starts once more. What holds is what a session can promise: the
mission starts at most once in each, and only after the whole transfer has
arrived in it. A second start therefore needs a second hello to an agent
without a session, and every message of the transfer again.

`Agent.Traced` follows the inputs of an agent back to the hello that opened its
session. The inputs of the agent in a conversation are read off the moves, and
all of them concern the mission, since the network invents nothing.

## Main definitions

* `Agent.Traced`: The session, the hello that opened it and what came since.
* `Conversation.agentInputs`: Everything that happens to the agent.
* `Conversation.Supplied`: What was sent to the agent concerns the mission.

## Theorems

* `Agent.traced_run`: Every session can be followed back.
* `Agent.of_starts`: What must have happened when the mission starts.
* `Agent.count_starts_le_one`: When the mission starts only once.
* `Conversation.run_agent`: The agent's part of a conversation.
* `Conversation.starts_once_per_session`: One start for each session, and a
  whole transfer for each start.
* `Conversation.starts_twice`: A mission that starts a second time.
-/

namespace RoverDispatch

namespace Agent

variable {m : Mission} {frags : List (List Field)} {transfer : List Message} {a : Agent}
  {inputs : List Input}

/-- An agent without a session that comes to have one has been sent a hello. -/
theorem opened_of_react {t : AgentSession} (hsends : m.Sends a.id frags transfer)
    (hs : a.session = none) {i : Input} (hi : i.Concerns m transfer)
    (hopens : (a.react i).state.session = some t) :
    ∃ hello now, i = .hear hello now ∧ hello.kind = .hello ∧ t.Stands m a.id frags transfer [] := by
  have hnone : a.session ≠ some t := by
    rw [hs]
    exact (Option.some_ne_none t).symm
  cases i with
  | hear x now =>
      simp only [react, receive] at hopens
      split at hopens
      · split at hopens
        · -- Of all messages only a hello opens a session.
          rename_i hkind
          simp only [onHello, hs] at hopens
          rcases hi with hx | ⟨habout, -⟩
          · cases hkind.symm.trans (hsends.about hx).1
          · rw [(opened_of_welcome hopens).2]
            exact ⟨x, now, rfl, hkind, stands_openSession hsends habout now⟩
        · simp only [onMission, hs] at hopens
          exact absurd hopens hnone
        · simp only [onAck, hs] at hopens
          exact absurd hopens hnone
        · exact absurd hopens hnone
      · exact absurd hopens hnone
  | wait now =>
      -- Without a session there is nothing to poll.
      have hs' := (a.recover_eq now).1.trans hs
      have hquiet : (a.recover now).pollTransfer now = .quiet (a.recover now) := by
        simp only [pollTransfer, hs']
      simp only [react] at hopens
      rw [poll_of_free now, hquiet] at hopens
      · cases hs'.symm.trans hopens
      · rw [hquiet]
        intro s hsome
        cases hs'.symm.trans hsome
  | inject fault => exact absurd hopens hnone
  | clearFault => exact absurd hopens hnone

/-- Where an agent stands with a mission after a number of inputs: without a session,
    or in one that a hello has opened, and with what has arrived since then. Before the
    mission starts, it has not started since then either. -/
inductive Traced (m : Mission) (frags : List (List Field)) (transfer : List Message) (a : Agent)
    (inputs : List Input) : Prop where
  | without (none : (a.run inputs).state.session = none)
  | within {before since : List Input} {hello : Message} {now : Nat} {t : AgentSession}
      (split : inputs = before ++ .hear hello now :: since) (kind : hello.kind = .hello)
      (none : (a.run before).state.session = none)
      (session : (a.run inputs).state.session = some t)
      (stands : t.Stands m a.id frags transfer (arrivals since))
      (quiet : t.isBusy = false → (a.run inputs).events.count (.missionStarted m) =
        (a.run before).events.count (.missionStarted m))

theorem Traced.silent (h : Traced m frags transfer a inputs)
    (hid : (a.run inputs).state.id = a.id) :
    ∀ s, (a.run inputs).state.session = some s → s.Silent := by
  cases h with
  | without none => exact fun s hs => absurd (none.symm.trans hs) nofun
  | within split kind none session stands quiet =>
      exact silent_of_stands session (hid ▸ stands)

/-- How often a mission has started after one more input. -/
theorem count_run_concat (a : Agent) (inputs : List Input) (i : Input) (m : Mission) :
    (a.run (inputs ++ [i])).events.count (.missionStarted m) =
      (a.run inputs).events.count (.missionStarted m) +
        ((a.run inputs).state.react i).events.count (.missionStarted m) := by
  rw [run_concat, List.count_append]

/-- A mission does not start when there is no session, or none that is busy
    afterwards. -/
theorem count_react_eq_zero (hsilent : ∀ s, a.session = some s → s.Silent) {i : Input}
    (h : a.session = none ∨ ∀ t, (a.react i).state.session = some t → t.isBusy = false)
    (m : Mission) : (a.react i).events.count (.missionStarted m) = 0 := by
  refine List.count_eq_zero.2 (fun hstart => ?_)
  rcases (passes hsilent i).passage.of_started (missionStarted_mem_milestones.2 hstart) with
    ⟨t, t', hs, -, hs', hbusy⟩
  rcases h with hnone | hfree
  · exact absurd (hnone.symm.trans hs) nofun
  · exact absurd ((hfree t' hs').symm.trans hbusy) nofun

/-- An input that concerns the mission keeps track of it. -/
theorem Traced.concat (h : Traced m frags transfer a inputs) (hid : (a.run inputs).state.id = a.id)
    (hm : m.Fits) (hsends : m.Sends a.id frags transfer) {i : Input} (hi : i.Concerns m transfer) :
    Traced m frags transfer a (inputs ++ [i]) := by
  have hsilent := h.silent hid
  have hsession : (a.run (inputs ++ [i])).state = ((a.run inputs).state.react i).state := by
    rw [run_concat]
  rw [← hid] at hsends
  cases h with
  | without none =>
      cases hs : ((a.run inputs).state.react i).state.session with
      | none => exact .without (hsession ▸ hs)
      | some t =>
          -- The session opens with this input, so nothing has happened in it yet.
          rcases opened_of_react hsends none hi hs with ⟨hello, now, rfl, hkind, hstands⟩
          refine .within rfl hkind none (hsession ▸ hs) (hid ▸ hstands) (fun _ => ?_)
          rw [count_run_concat, count_react_eq_zero hsilent (.inl none), Nat.add_zero]
  | @within before since hello now t split kind none session stands quiet =>
      rcases stands_react hm hsends session (hid ▸ stands) hi with ⟨t', hs', hstands⟩ | ⟨hnone, -⟩
      · have hsplit : inputs ++ [i] = before ++ .hear hello now :: (since ++ [i]) := by
          rw [split, List.append_assoc, List.cons_append]
        refine .within hsplit kind none (hsession ▸ hs') ?_ (fun hfree => ?_)
        · rw [arrivals_concat, ← hid]
          exact hstands
        · -- A session that is not busy now was not busy before.
          have hfree' : t.isBusy = false := by
            by_contra hbusy
            have hall := stands.isBusy_iff.1 (eq_true_of_ne_false hbusy)
            have hbusy' := hstands.isBusy_iff.2 (List.subset_append_of_subset_left _ hall)
            exact absurd (hfree.symm.trans hbusy') nofun
          rw [count_run_concat, quiet hfree', count_react_eq_zero hsilent (.inr ?_), Nat.add_zero]
          intro u hu
          cases hs'.symm.trans hu
          exact hfree
      · exact .without (hsession ▸ hnone)

/-- Whatever concerns the mission happens to an agent without a session, it is kept
    track of. -/
theorem traced_run (hs : a.session = none) (hm : m.Fits) (hsends : m.Sends a.id frags transfer)
    (hinputs : ∀ i ∈ inputs, i.Concerns m transfer) :
    (a.run inputs).state.id = a.id ∧ Traced m frags transfer a inputs := by
  -- What happened last happens to the agent that the rest has led to.
  induction inputs using List.reverseRecOn with
  | nil => exact ⟨rfl, .without hs⟩
  | append_singleton inputs i ih =>
      rcases ih (fun j hj => hinputs j (List.mem_append_left _ hj)) with ⟨hid, htraced⟩
      have hi := hinputs i (List.mem_append_right _ (List.mem_singleton_self i))
      refine ⟨?_, htraced.concat hid hm hsends hi⟩
      rw [run_concat]
      exact (passes (htraced.silent hid) i).id.trans hid

/-- When a mission starts, a hello has opened a session since it started last, and
    the whole transfer has arrived since the hello. -/
theorem of_starts (hs : a.session = none) (hm : m.Fits) (hsends : m.Sends a.id frags transfer)
    (hinputs : ∀ i ∈ inputs, i.Concerns m transfer) {i : Input} (hi : i.Concerns m transfer)
    (hstarts : .missionStarted m ∈ ((a.run inputs).state.react i).events) :
    ∃ before hello now since, inputs = before ++ .hear hello now :: since ∧
      hello.kind = .hello ∧ (a.run before).state.session = none ∧
      (a.run inputs).events.count (.missionStarted m) =
        (a.run before).events.count (.missionStarted m) ∧
      transfer ⊆ arrivals (since ++ [i]) := by
  rcases traced_run hs hm hsends hinputs with ⟨hid, htraced⟩
  have hpassage := (passes (htraced.silent hid) i).passage
  rcases hpassage.of_started (missionStarted_mem_milestones.2 hstarts) with
    ⟨t, t', ht, hfree, ht', hbusy⟩
  cases htraced with
  | without none => exact absurd (none.symm.trans ht) nofun
  | @within before since hello now u split kind none session stands quiet =>
      cases session.symm.trans ht
      refine ⟨before, hello, now, since, split, kind, none, quiet hfree, ?_⟩
      -- The session is busy now, so everything has arrived.
      rw [← hid] at hsends stands
      rcases stands_react hm hsends session stands hi with ⟨u, hu, hstands⟩ | ⟨hnone, -⟩
      · cases hu.symm.trans ht'
        rw [arrivals_concat]
        exact hstands.isBusy_iff.1 hbusy
      · exact absurd (hnone.symm.trans ht') nofun

/-- A mission starts once if no hello opens a session after that. -/
theorem count_starts_le_one (hs : a.session = none) (hm : m.Fits)
    (hsends : m.Sends a.id frags transfer) (hinputs : ∀ i ∈ inputs, i.Concerns m transfer)
    (hlast : ∀ before hello now since, inputs = before ++ .hear hello now :: since →
      hello.kind = .hello → (a.run before).state.session = none →
        .missionStarted m ∉ (a.run before).events) :
    (a.run inputs).events.count (.missionStarted m) ≤ 1 := by
  induction inputs using List.reverseRecOn with
  | nil => exact Nat.zero_le 1
  | append_singleton inputs i ih =>
      have hinputs' : ∀ j ∈ inputs, j.Concerns m transfer :=
        fun j hj => hinputs j (List.mem_append_left _ hj)
      have hi := hinputs i (List.mem_append_right _ (List.mem_singleton_self i))
      have hlast' : ∀ before hello now since, inputs = before ++ .hear hello now :: since →
          hello.kind = .hello → (a.run before).state.session = none →
            .missionStarted m ∉ (a.run before).events := by
        intro before hello now since hsplit
        refine hlast before hello now (since ++ [i]) ?_
        rw [hsplit, List.append_assoc, List.cons_append]
      rw [count_run_concat]
      by_cases hstarts : .missionStarted m ∈ ((a.run inputs).state.react i).events
      · -- Before this start there was none, and one input starts the mission once.
        rcases of_starts hs hm hsends hinputs' hi hstarts with
          ⟨before, hello, now, since, hsplit, hkind, hnone, hcount, -⟩
        have hzero := List.count_eq_zero.2 (hlast' before hello now since hsplit hkind hnone)
        rcases traced_run hs hm hsends hinputs' with ⟨hid, htraced⟩
        have hlength := (passes (htraced.silent hid) i).passage.length_le
        rw [hcount, hzero, Nat.zero_add, ← count_milestones]
        exact List.count_le_length.trans hlength
      · rw [List.count_eq_zero.2 hstarts, Nat.add_zero]
        exact ih hinputs' hlast'

end Agent

namespace Conversation

/-- What a move brings the agent. -/
def agentInput? (c : Conversation) : Move → Option Agent.Input
  | .pollAgent now => some (.wait now)
  | .inject fault => some (.inject fault)
  | .clearFault => some .clearFault
  | .toAgent place now => c.toAgent[place]?.map (.hear · now)
  | _ => none

/-- Everything that happens to the agent in a number of moves. -/
def agentInputs (c : Conversation) : List Move → List Agent.Input
  | [] => []
  | step :: moves => (c.agentInput? step).toList ++ (c.move step).agentInputs moves

/-- The agent's part of a move. -/
theorem move_agent (c : Conversation) (step : Move) :
    (c.move step).agent = (c.agent.run (c.agentInput? step).toList).state ∧
    (c.move step).agentEvents =
      c.agentEvents ++ (c.agent.run (c.agentInput? step).toList).events := by
  have hnone : ∀ c : Conversation, c.agent = (c.agent.run []).state ∧
      c.agentEvents = c.agentEvents ++ (c.agent.run []).events :=
    fun c => ⟨rfl, (List.append_nil _).symm⟩
  cases step with
  -- Of all moves only some are inputs of the agent; the others leave it as it is.
  | toAgent place now =>
      simp only [move, agentInput?]
      cases c.toAgent[place]? with
      | none => exact hnone c
      | some x => exact ⟨rfl, rfl⟩
  | toSupervisor place now =>
      simp only [move]
      split
      · exact hnone c
      · exact hnone (c.deliver _ now)
  | inject fault => exact ⟨rfl, (List.append_nil _).symm⟩
  | clearFault => exact ⟨rfl, (List.append_nil _).symm⟩
  | pollAgent now => exact ⟨rfl, rfl⟩
  | greet now => exact hnone c
  | transmitted now => exact hnone c
  | pollSupervisor now => exact hnone c

/-- The agent's part of a number of moves. -/
theorem run_agent (c : Conversation) (moves : List Move) :
    (c.run moves).agent = (c.agent.run (c.agentInputs moves)).state ∧
    (c.run moves).agentEvents = c.agentEvents ++ (c.agent.run (c.agentInputs moves)).events := by
  induction moves generalizing c with
  | nil => exact ⟨rfl, (List.append_nil _).symm⟩
  | cons step moves ih =>
      rcases c.move_agent step with ⟨hagent, hevents⟩
      rcases ih (c.move step) with ⟨hagent', hevents'⟩
      rw [agentInputs, Agent.run_append, ← hagent]
      refine ⟨hagent', ?_⟩
      rw [← List.append_assoc, ← hevents]
      exact hevents'

/-- What was ever sent to the agent concerns the mission. -/
structure Supplied (m : Mission) (transfer : List Message) (c : Conversation) : Prop where
  mission : c.supervisor.mission = m
  carries : c.supervisor.transfer = transfer
  sent : ∀ x ∈ c.toAgent,
    x ∈ transfer ∨ x.mission = m.id ∧ (x.kind = .hello ∨ x.kind = .ack)

section Supplied

variable {m : Mission} {transfer : List Message} {c : Conversation}

theorem Supplied.supervisorReacts (h : c.Supplied m transfer) {r : SupervisorReaction}
    (hspeaks : c.supervisor.Speaks r) : (c.supervisorReacts r).Supplied m transfer where
  mission := hspeaks.mission.trans h.mission
  carries := hspeaks.transfer.trans h.carries
  sent := by
    intro x hx
    rcases List.mem_append.1 hx with hx | hx
    · exact h.sent x hx
    · rw [← h.mission, ← h.carries]
      exact hspeaks.messages x hx

theorem Supplied.move (h : c.Supplied m transfer) (step : Move) :
    (c.move step).Supplied m transfer := by
  cases step with
  | greet now => exact h.supervisorReacts (c.supervisor.greets now).speaks
  | transmitted now => exact h.supervisorReacts (c.supervisor.transmits now).speaks
  | pollSupervisor now => exact h.supervisorReacts (c.supervisor.polls now).speaks
  | toSupervisor place now =>
      simp only [Conversation.move]
      split
      · exact h
      · exact { h.supervisorReacts (c.supervisor.receives _ now).speaks with }
  | toAgent place now =>
      simp only [Conversation.move]
      split
      · exact h
      · exact { h with }
  | pollAgent now => exact { h with }
  | inject fault => exact { h with }
  | clearFault => exact { h with }

theorem Supplied.concerns (h : c.Supplied m transfer) {moves : List Move} :
    ∀ i ∈ c.agentInputs moves, i.Concerns m transfer := by
  induction moves generalizing c with
  | nil => exact fun i hi => absurd hi List.not_mem_nil
  | cons step moves ih =>
      intro i hi
      rcases List.mem_append.1 hi with hi | hi
      · -- The first input is one of the step, if that is one of the agent's.
        cases step with
        | toAgent place now =>
            rcases Option.map_eq_some_iff.1 (Option.mem_toList.1 hi) with ⟨x, hx, rfl⟩
            exact h.sent x (List.mem_of_getElem? hx)
        | pollAgent now =>
            cases Option.mem_toList.1 hi
            trivial
        | inject fault =>
            cases Option.mem_toList.1 hi
            trivial
        | clearFault =>
            cases Option.mem_toList.1 hi
            trivial
        | _ => cases Option.mem_toList.1 hi
      · exact ih (h.move step) i hi

end Supplied

/-- A mission starts once in a session, and every start needs the whole transfer
    anew. Whenever the agent starts the mission, a hello has reached it without a
    session, the mission has not started since, and every message of the transfer has
    arrived since. So the mission starts at most once in a conversation in which no
    hello reaches the agent without a session after the mission has started. -/
theorem starts_once_per_session {timing agentTiming : Timing} {rover : Int} {body : Rover}
    {m : Mission} {s : Supervisor} (hm : m.Fits)
    (hs : Supervisor.prepare timing rover m = .ok s) (moves : List Move) :
    let a : Agent := .start rover agentTiming body
    let c := (start s a).run moves
    let inputs := (start s a).agentInputs moves
    c.agentEvents = (a.run inputs).events ∧
    (∀ earlier i later, inputs = earlier ++ i :: later →
      .missionStarted m ∈ ((a.run earlier).state.react i).events →
      ∃ before hello now since, earlier = before ++ .hear hello now :: since ∧
        hello.kind = .hello ∧ (a.run before).state.session = none ∧
        (a.run earlier).events.count (.missionStarted m) =
          (a.run before).events.count (.missionStarted m) ∧
        s.transfer ⊆ Agent.arrivals (since ++ [i])) ∧
    ((∀ before hello now since, inputs = before ++ .hear hello now :: since →
        hello.kind = .hello → (a.run before).state.session = none →
          .missionStarted m ∉ (a.run before).events) →
      c.agentEvents.count (.missionStarted m) ≤ 1) := by
  intro a c inputs
  rcases Supervisor.of_prepare hs with ⟨transfer, htransfer, rfl⟩
  rcases Mission.sends_of_transferMessages htransfer with ⟨frags, hsends⟩
  have hevents : c.agentEvents = (a.run inputs).events := (run_agent _ moves).2
  have hstart : (start ⟨timing, rover, m, transfer, .idle, .empty, 0⟩ a).Supplied m transfer :=
    ⟨rfl, rfl, fun x hx => absurd hx List.not_mem_nil⟩
  -- All that reaches the agent was sent by the supervisor of this mission.
  have hinputs : ∀ i ∈ inputs, i.Concerns m transfer := hstart.concerns
  refine ⟨hevents, fun earlier i later hsplit hstarts => ?_, fun hlast => ?_⟩
  · rw [hsplit] at hinputs
    have hi := hinputs i (List.mem_append_right _ List.mem_cons_self)
    have hearlier : ∀ j ∈ earlier, j.Concerns m transfer :=
      fun j hj => hinputs j (List.mem_append_left _ hj)
    exact Agent.of_starts rfl hm hsends hearlier hi hstarts
  · rw [hevents]
    exact Agent.count_starts_le_one rfl hm hsends hinputs hlast

/-- The mission arrives once more after its session has closed, and does not start
    again. The rover is infinitely far from the area, so no root has to be drawn to
    move it. -/
theorem starts_once_per_session_late :
    let m : Mission := ⟨1, .zero, .zero, .zero, .zero, "scan", 1, 2, 0, 1⟩
    let body : Rover := .start {} ⟨0x7f800000⟩ .zero .hundred none
    let moves : List Move := [.greet 0, .toAgent 0 1, .toSupervisor 0 2, .toAgent 1 3,
      .toSupervisor 1 4, .pollAgent 1003, .toSupervisor 2 1004, .toAgent 2 1005, .toAgent 1 1006]
    ∃ s, Supervisor.prepare {} 7 m = .ok s ∧
      let c := (start s (.start 7 {} body)).run moves
      .sessionClosed 1 .confirmed ∈ c.agentEvents ∧
      c.agentEvents.count (.missionStarted m) = 1 := by
  intro m body moves
  have hrun : ∃ s, Supervisor.prepare {} 7 m = .ok s ∧
      .sessionClosed 1 .confirmed ∈ ((start s (.start 7 {} body)).run moves).agentEvents ∧
      .missionStarted m ∈ ((start s (.start 7 {} body)).run moves).agentEvents ∧
      ∀ i ∈ ((start s (.start 7 {} body)).agentInputs moves).drop 1, ∀ x ∈ i.messages,
        x.kind ≠ .hello :=
    Supervisor.exists_prepare_of_check (by decide +kernel)
  rcases hrun with ⟨s, hs, hclosed, hstarted, hlater⟩
  refine ⟨s, hs, hclosed, Nat.le_antisymm ?_ (List.count_pos_iff.2 hstarted)⟩
  refine (starts_once_per_session (by decide) hs moves).2.2 ?_
  intro before hello now since hsplit hkind _
  rw [hsplit] at hlater
  cases before with
  | nil => exact List.not_mem_nil
  | cons i before =>
      have hmem : .hear hello now ∈ before ++ .hear hello now :: since :=
        List.mem_append_right _ List.mem_cons_self
      exact absurd hkind (hlater _ hmem hello (List.mem_singleton_self hello))

/-- A session that has closed leaves nothing behind. When old copies of the hello and
    of the mission arrive after that, the mission starts a second time. -/
theorem starts_twice :
    let m : Mission := ⟨1, .zero, .zero, .zero, .zero, "scan", 1, 2, 0, 1⟩
    let body : Rover := .start {} ⟨0x7f800000⟩ .zero .hundred none
    let moves : List Move := [.greet 0, .toAgent 0 1, .toSupervisor 0 2, .toAgent 1 3,
      .toSupervisor 1 4, .pollAgent 1003, .toSupervisor 2 1004, .toAgent 2 1005, .toAgent 0 1006,
      .toAgent 1 1007]
    ∃ s, Supervisor.prepare {} 7 m = .ok s ∧
      ((start s (.start 7 {} body)).run moves).agentEvents =
        [.missionStarted m, .sessionClosed 1 .confirmed, .missionStarted m] :=
  Supervisor.exists_prepare_of_check (by decide +kernel)

end Conversation

end RoverDispatch
