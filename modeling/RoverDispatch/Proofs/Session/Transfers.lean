import RoverDispatch.Proofs.Session.Lifecycles
import RoverDispatch.Proofs.Session.Supervisors

/-!
# Transfers to a Session

When the mission of a session starts: exactly when the whole transfer has
arrived.

A transfer is one message, or one for every fragment. A session that has just
opened has received nothing of it. `AgentSession.Gathers` says that it has
received exactly what is among the messages that have come since then; the
invariant is carried by the list of fragments in the reception, which a member
of the transfer extends and which silence, hellos and acknowledgements leave as
it is. When the last member arrives, the list names every fragment, and the
mission starts as it was sent. From then on the session is busy and repeats
that it has everything.

Neither the order of arrival nor the times nor the number of copies occur in
the invariant, so they make no difference, and neither does it matter whether
the mission was cut.

## Main definitions

* `AgentSession.Gathers`: What a session has received of a transfer.
* `AgentSession.Stands`: The session is receiving exactly as long as anything
  is missing.
* `Agent.Input.Concerns`: What can happen in the course of a mission.
* `Agent.arrivals`: The messages that have come.

## Theorems

* `Agent.progresses_receive`: What a member of the transfer leads to.
* `Agent.waits_react`: What anything else leads to.
* `Agent.stands_run`: Where a session stands after any inputs.
* `Agent.opened_of_receive`: How a session opens.
* `Agent.transfer_completes`: The mission starts when the transfer is complete.
-/

namespace RoverDispatch

namespace AgentSession

/-- A session that is receiving a mission, and has received exactly what of it is
    among the messages. -/
structure Gathers (m : Mission) (rover : Int) (frags : List (List Field)) (seen : List Message)
    (t : AgentSession) : Prop where
  mission : t.mission = m.id
  fresh : t.reports.Fresh
  reception : ∃ r order, t.stage = .receiving r ∧ r.Arrived frags order ∧
    ∀ i, i ∈ order ↔ m.fragmentMessage rover frags i ∈ seen

/-- A session in which some of a transfer has arrived: it is receiving the
    mission exactly as long as anything is missing. -/
inductive Stands (m : Mission) (rover : Int) (frags : List (List Field))
    (transfer seen : List Message) (t : AgentSession) : Prop where
  | gathers (short : ¬ transfer ⊆ seen) (gathers : t.Gathers m rover frags seen)
  | busy (all : transfer ⊆ seen) (mission : t.mission = m.id) (busy : t.isBusy = true)

section Stands

variable {m : Mission} {rover : Int} {frags : List (List Field)}
  {transfer seen more : List Message} {t : AgentSession}

theorem Gathers.free (h : t.Gathers m rover frags seen) : t.isBusy = false := by
  rcases h.reception with ⟨r, order, hr, -, -⟩
  exact isBusy_eq hr

theorem Gathers.phase (h : t.Gathers m rover frags seen) :
    t.phase = .respondedAvailable ∨ t.phase = .receivingFragments := by
  rcases h.reception with ⟨r, order, hr, -, -⟩
  rw [AgentSession.phase, hr]
  exact ite_eq_or_eq ..

/-- What is no part of the transfer makes no difference. -/
theorem Gathers.append (h : t.Gathers m rover frags seen) (hsends : m.Sends rover frags transfer)
    (hmore : ∀ x ∈ transfer, x ∉ more) : t.Gathers m rover frags (seen ++ more) where
  mission := h.mission
  fresh := h.fresh
  reception := by
    rcases h.reception with ⟨r, order, hr, harrived, horder⟩
    refine ⟨r, order, hr, harrived, fun i => ?_⟩
    rw [List.mem_append, or_iff_left (hmore _ (hsends.fragmentMessage_mem i)), horder]

theorem Stands.of_short (h : t.Stands m rover frags transfer seen) (hshort : ¬ transfer ⊆ seen) :
    t.Gathers m rover frags seen := by
  cases h with
  | gathers short gathers => exact gathers
  | busy all mission busy => exact absurd all hshort

theorem Stands.of_all (h : t.Stands m rover frags transfer seen) (hall : transfer ⊆ seen) :
    t.mission = m.id ∧ t.isBusy = true := by
  cases h with
  | gathers short gathers => exact absurd hall short
  | busy all mission busy => exact ⟨mission, busy⟩

/-- A session is busy exactly when everything has arrived. -/
theorem Stands.isBusy_iff (h : t.Stands m rover frags transfer seen) :
    t.isBusy = true ↔ transfer ⊆ seen := by
  refine ⟨fun hbusy => ?_, fun hall => (h.of_all hall).2⟩
  by_contra hshort
  exact absurd ((h.of_short hshort).free.symm.trans hbusy) nofun

/-- Nothing is reported in a session whose transfer is not complete. -/
theorem Stands.silent (h : t.Stands m rover frags transfer seen) : t.Silent := by
  cases h with
  | gathers short gathers => exact fun _ => gathers.fresh
  | busy all mission busy => exact .of_busy busy

end Stands

end AgentSession

/-- A message tells that nothing is missing after another one. -/
structure Message.Completes (ack x : Message) : Prop where
  kind : ack.kind = .ack
  seq : ack.seq = x.seq
  success : ack.success = true
  payload : ack.payload = .ack ⟨[], false⟩

theorem AgentSession.completes_missionAck (t : AgentSession) (agent : Int) (x : Message) :
    (t.missionAck agent x.seq []).Completes x :=
  ⟨rfl, rfl, rfl, rfl⟩

namespace Agent

variable {m : Mission} {frags : List (List Field)} {transfer seen : List Message} {a : Agent}
  {t : AgentSession}

/-- What a message of the transfer leads to while the mission is being received:
    it starts with the message that completes the transfer, and with no other. -/
inductive Progresses (m : Mission) (frags : List (List Field)) (transfer seen : List Message)
    (a : Agent) (x : Message) (r : AgentReaction) : Prop where
  | goes_on (short : ¬ transfer ⊆ seen ++ [x]) {t : AgentSession}
      (session : r.state.session = some t) (gathers : t.Gathers m a.id frags (seen ++ [x]))
      (events : r.events = [])
  | starts (all : transfer ⊆ seen ++ [x]) {t : AgentSession} (session : r.state.session = some t)
      (mission : t.mission = m.id) (stage : ∃ e, t.stage = .executing e)
      (ack : ∃ ack, r.messages = [ack] ∧ ack.Completes x) (events : r.events = [.missionStarted m])

/-- A fragment of the mission reaches a session that is receiving it. -/
theorem progresses_onFragment (h : t.Gathers m a.id frags seen) (hm : m.Fits) (hne : frags ≠ [])
    (hcut : CutInto m.toFields frags.flatten)
    (hmem : ∀ x, x ∈ transfer ↔ ∃ i, x = m.fragmentMessage a.id frags i) {r : Reception}
    {order : List (Fin frags.length)} (hr : r.Arrived frags order)
    (horder : ∀ i, i ∈ order ↔ m.fragmentMessage a.id frags i ∈ seen) (i : Fin frags.length)
    (now : Nat) :
    Progresses m frags transfer seen a (m.fragmentMessage a.id frags i)
      (a.onFragment t r (m.fragmentMessage a.id frags i) (frags.get i) now) := by
  -- The fragments that have arrived and the messages that have come stay the same.
  have hseen : ∀ j, j ∈ Reception.withArrival order i ↔
      m.fragmentMessage a.id frags j ∈ seen ++ [m.fragmentMessage a.id frags i] := by
    intro j
    rw [Reception.mem_withArrival, List.mem_append, List.mem_singleton,
      Mission.fragmentMessage_inj, horder, or_comm]
  -- While the transfer goes on, only the stage and the total change.
  have hgoes : ∀ (r' : Reception) (messages : List Message),
      r'.Arrived frags (Reception.withArrival order i) →
      Progresses m frags transfer seen a (m.fragmentMessage a.id frags i)
        { state := a.within { t with total := r'.total, stage := .receiving r' }, messages } := by
    intro r' messages hr'
    refine .goes_on ?_ rfl ?_ rfl
    · intro hall
      rcases hr'.exists_not_mem hne with ⟨j, hj⟩
      exact hj ((hseen j).2 (hall ((hmem _).2 ⟨j, rfl⟩)))
    · exact ⟨h.mission, h.fresh, r', _, rfl, hr', hseen⟩
  have hlands := hr.take hm hcut a.timing i now
  simp only [onFragment]
  change Reception.Lands frags m _
    (r.take a.timing (m.fragmentMessage a.id frags i).seq (m.fragmentMessage a.id frags i).total
      (frags.get i) now) at hlands
  generalize r.take _ _ _ _ _ = taken at hlands ⊢
  cases hlands with
  | complete r' all =>
      refine .starts ?_ rfl ?_ ⟨_, rfl⟩ ⟨_, rfl, AgentSession.completes_missionAck _ a.id _⟩ rfl
      · intro y hy
        rcases (hmem y).1 hy with ⟨j, rfl⟩
        exact (hseen j).1 (all j)
      · exact h.mission
  | silent hr' => exact hgoes _ _ hr'
  | ask hr' hne' => exact hgoes _ _ hr'

/-- A message of the transfer reaches a session that is receiving it. -/
theorem progresses_receive (hs : a.session = some t) (h : t.Gathers m a.id frags seen)
    (hm : m.Fits) (hsends : m.Sends a.id frags transfer) {x : Message} (hx : x ∈ transfer)
    (now : Nat) : Progresses m frags transfer seen a x (a.receive x now) := by
  rcases hsends.about hx with ⟨hkind, hreceiver, habout⟩
  rcases h.reception with ⟨r, order, hr, harrived, horder⟩
  rw [receive, if_pos hreceiver, hkind]
  simp only [onMission, hs, h.mission, habout, ne_eq, not_true_eq_false, if_false, hr, onTransfer]
  cases hsends with
  | whole =>
      -- The mission came in one piece.
      cases List.mem_singleton.1 hx
      refine .starts ?_ rfl ?_ ⟨_, rfl⟩ ⟨_, rfl, AgentSession.completes_missionAck _ a.id _⟩ rfl
      · exact List.subset_append_right _ _
      · exact h.mission
  | cut ne cut mem =>
      rcases (mem x).1 hx with ⟨i, rfl⟩
      have hpayload : (m.fragmentMessage a.id frags i).payload =
          .fragment (encodeFields (frags.get i)) := rfl
      simp only [hpayload, Mission.decodeFields_fragment hm cut i]
      refine progresses_onFragment h hm ne cut mem ?_ horder i now
      exact harrived.congr rfl rfl

/-- A rover that has the mission says so again. -/
theorem receive_member_of_busy (hs : a.session = some t) (hmission : t.mission = m.id)
    (hbusy : t.isBusy = true) (hsends : m.Sends a.id frags transfer) {x : Message}
    (hx : x ∈ transfer) (now : Nat) :
    a.receive x now = { state := a, messages := [t.missionAck a.id x.seq []] } := by
  rcases hsends.about hx with ⟨hkind, hreceiver, habout⟩
  rw [receive, if_pos hreceiver, hkind]
  simp only [onMission, hs, hmission, habout, ne_eq, not_true_eq_false, if_false]
  split
  · rename_i r hr
    cases hbusy.symm.trans (AgentSession.isBusy_eq hr)
  · rfl

/-- What comes of a session that is receiving a mission when it hears nothing of
    the transfer. -/
inductive Waits (m : Mission) (frags : List (List Field)) (seen : List Message) (a : Agent)
    (r : AgentReaction) : Prop where
  | goes_on {t : AgentSession} (session : r.state.session = some t)
      (gathers : t.Gathers m a.id frags seen) (events : r.events = [])
  | abandoned (session : r.state.session = none)
      (events : r.events = [.sessionClosed m.id .transferAbandoned])

/-- Nothing comes of it. -/
theorem waits_quiet {b : Agent} (hb : b.session = a.session) (hs : a.session = some t)
    (h : t.Gathers m a.id frags seen) {messages : List Message} :
    Waits m frags seen a { state := b, messages } :=
  .goes_on (hb.trans hs) h rfl

/-- A session goes on as long as its reception goes on. -/
theorem waits_within (h : t.Gathers m a.id frags seen) {r : Reception} (hr : t.stage = .receiving r)
    {r' : Reception} (hr' : ∀ order, r.Arrived frags order → r'.Arrived frags order) {b : Agent}
    {messages : List Message} :
    Waits m frags seen a { state := b.within { t with stage := .receiving r' }, messages } := by
  rcases h.reception with ⟨r₀, order, hr₀, harrived, horder⟩
  cases hr.symm.trans hr₀
  exact .goes_on rfl ⟨h.mission, h.fresh, r', order, rfl, hr' order harrived, horder⟩ rfl

/-- Time passes on a session that is receiving a mission. -/
theorem waits_poll (hs : a.session = some t) (h : t.Gathers m a.id frags seen) (now : Nat) :
    Waits m frags seen a (a.poll now) := by
  have hs' := (a.recover_eq now).1.trans hs
  rcases h.reception with ⟨r, order, hr, -, -⟩
  -- Nothing is carried out or reported, so only the transfer is polled.
  have hwaits : Waits m frags seen a ((a.recover now).pollTransfer now) := by
    simp only [pollTransfer, hs', hr]
    split
    · exact waits_quiet (a.recover_eq now).1 hs h
    · split
      · refine .abandoned rfl ?_
        rw [← h.mission]
        rfl
      · exact waits_within h hr (fun order harrived => harrived.nudge now)
  rw [poll_of_free]
  · exact hwaits
  · intro s hsession
    cases hwaits with
    | goes_on session gathers events =>
        cases session.symm.trans hsession
        exact ⟨gathers.free, gathers.fresh⟩
    | abandoned session events => cases session.symm.trans hsession

/-- A hello or an acknowledgement about the mission reaches a session that is
    receiving it. -/
theorem waits_receive (hs : a.session = some t) (h : t.Gathers m a.id frags seen) {x : Message}
    (habout : x.mission = m.id) (hkind : x.kind = .hello ∨ x.kind = .ack) (now : Nat) :
    Waits m frags seen a (a.receive x now) := by
  rcases h.reception with ⟨r, order, hr, -, -⟩
  rw [receive]
  split
  · -- Either is heard of and no more: the session is open, and nothing can be confirmed.
    rcases hkind with hkind | hkind
    · simp only [hkind, onHello, hs, if_pos (h.mission.trans habout.symm), AgentSession.heard, hr]
      refine waits_within h hr (fun order harrived => ?_)
      exact harrived.congr rfl rfl
    · simp only [hkind, onAck, hs, h.mission, habout, ne_eq, not_true_eq_false, if_false,
        h.fresh.confirm?]
      exact waits_quiet rfl hs h
  · exact waits_quiet rfl hs h

/-! ### A number of inputs -/

/-- What an agent can be told in the course of a mission, apart from the passing
    of time: the transfer, and hellos and acknowledgements. -/
def Input.Concerns (m : Mission) (transfer : List Message) : Input → Prop
  | .hear x _ => x ∈ transfer ∨ x.mission = m.id ∧ (x.kind = .hello ∨ x.kind = .ack)
  | _ => True

/-- The messages that an input brings. -/
def Input.messages : Input → List Message
  | .hear x _ => [x]
  | _ => []

/-- The messages that a number of inputs bring. -/
def arrivals (inputs : List Input) : List Message := inputs.flatMap Input.messages

theorem arrivals_concat (inputs : List Input) (i : Input) :
    arrivals (inputs ++ [i]) = arrivals inputs ++ i.messages := by
  rw [arrivals, List.flatMap_append, List.flatMap_singleton]
  rfl

/-- What brings nothing of the transfer to a session that is receiving it. -/
theorem waits_react (hs : a.session = some t) (h : t.Gathers m a.id frags seen) {i : Input}
    (hi : i.Concerns m transfer) (hnone : ∀ x ∈ transfer, x ∉ i.messages) :
    Waits m frags seen a (a.react i) := by
  cases i with
  | hear x now =>
      rcases hi with hx | ⟨habout, hkind⟩
      · exact absurd (List.mem_singleton_self x) (hnone x hx)
      · exact waits_receive hs h habout hkind now
  | wait now => exact waits_poll hs h now
  | inject fault => exact .goes_on hs h rfl
  | clearFault => exact .goes_on hs h rfl

theorem silent_of_stands (hs : a.session = some t) (h : t.Stands m a.id frags transfer seen) :
    ∀ s, a.session = some s → s.Silent := by
  intro s hs'
  cases hs.symm.trans hs'
  exact h.silent

theorem Progresses.stands {x : Message} {r : AgentReaction}
    (h : Progresses m frags transfer seen a x r) :
    ∃ t', r.state.session = some t' ∧ t'.Stands m a.id frags transfer (seen ++ [x]) := by
  cases h with
  | goes_on short session gathers events => exact ⟨_, session, .gathers short gathers⟩
  | starts all session mission stage ack events =>
      rcases stage with ⟨e, he⟩
      exact ⟨_, session, .busy all mission (AgentSession.isBusy_eq he)⟩

theorem Waits.stands {more : List Message} {r : AgentReaction} (h : Waits m frags seen a r)
    (hsends : m.Sends a.id frags transfer) (hshort : ¬ transfer ⊆ seen)
    (hmore : ∀ x ∈ transfer, x ∉ more) :
    (∃ t', r.state.session = some t' ∧ t'.Stands m a.id frags transfer (seen ++ more)) ∨
      r.state.session = none ∧ ∃ reason, .sessionClosed m.id reason ∈ r.events := by
  cases h with
  | goes_on session gathers events =>
      refine .inl ⟨_, session, .gathers (fun hall => hshort (fun x hx => ?_)) ?_⟩
      · exact (List.mem_append.1 (hall hx)).resolve_right (hmore x hx)
      · exact gathers.append hsends hmore
  | abandoned session events => exact .inr ⟨session, _, events ▸ List.mem_singleton_self _⟩

/-- Every input concerning a mission leaves a session that is receiving it exactly as
    long as anything is missing, or closes it. -/
theorem stands_react (hm : m.Fits) (hsends : m.Sends a.id frags transfer) (hs : a.session = some t)
    (h : t.Stands m a.id frags transfer seen) {i : Input} (hi : i.Concerns m transfer) :
    (∃ t', (a.react i).state.session = some t' ∧
        t'.Stands m a.id frags transfer (seen ++ i.messages)) ∨
      (a.react i).state.session = none ∧
        ∃ reason, .sessionClosed m.id reason ∈ (a.react i).events := by
  have hsilent := silent_of_stands hs h
  cases h with
  | gathers short gathers =>
      -- An input brings one message at most, so it is a member of the transfer or
      -- leaves the reception as it is.
      by_cases hmember : ∃ x ∈ transfer, x ∈ i.messages
      · rcases hmember with ⟨x, hx, hmem⟩
        cases i with
        | hear y now =>
            cases List.mem_singleton.1 hmem
            exact .inl (progresses_receive hs gathers hm hsends hx now).stands
        | wait now => cases hmem
        | inject fault => cases hmem
        | clearFault => cases hmem
      · have hnone : ∀ x ∈ transfer, x ∉ i.messages := fun x hx hmem => hmember ⟨x, hx, hmem⟩
        exact (waits_react hs gathers hi hnone).stands hsends short hnone
  | busy all mission busy =>
      -- Nothing is left to be received; any busy session stays or closes.
      have hpassage := (passes hsilent i).passage
      rw [hs] at hpassage
      rcases hpassage.of_busy busy with ⟨t', ht', hmission, hbusy, -⟩ | ⟨hnone, reason, -, htold⟩
      · refine .inl ⟨t', ht', .busy ?_ (hmission.trans mission) hbusy⟩
        exact fun x hx => List.mem_append_left _ (all hx)
      · exact .inr ⟨hnone, reason, mission ▸ mem_of_milestones htold⟩

/-- As long as it is not closed, a session is receiving the mission exactly as long as
    anything is missing. -/
theorem stands_run (hm : m.Fits) (hsends : m.Sends a.id frags transfer) (hs : a.session = some t)
    (h : t.Stands m a.id frags transfer []) {inputs : List Input}
    (hinputs : ∀ i ∈ inputs, i.Concerns m transfer)
    (hlasts : ∀ reason, .sessionClosed m.id reason ∉ (a.run inputs).events) :
    (a.run inputs).state.id = a.id ∧ ∃ t', (a.run inputs).state.session = some t' ∧
      t'.Stands m a.id frags transfer (arrivals inputs) := by
  -- What happened last happens to the agent that the rest has led to.
  induction inputs using List.reverseRecOn with
  | nil => exact ⟨rfl, t, hs, h⟩
  | append_singleton inputs i ih =>
      rw [run_concat] at hlasts ⊢
      simp only [List.mem_append, not_or] at hlasts
      rcases ih (fun j hj => hinputs j (List.mem_append_left _ hj)) (fun reason => (hlasts reason).1)
        with ⟨hid, t', hs', h'⟩
      rw [← hid] at h'
      have hi := hinputs i (List.mem_append_right _ (List.mem_singleton_self i))
      rcases stands_react hm (hid.symm ▸ hsends) hs' h' hi with hlives | ⟨-, reason, hclosed⟩
      · refine ⟨(passes (silent_of_stands hs' h') i).id.trans hid, ?_⟩
        rw [arrivals_concat, ← hid]
        exact hlives
      · exact absurd hclosed (hlasts reason).2

/-- A welcome that leaves a session has opened it. -/
theorem opened_of_welcome {hello : Message} {now : Nat}
    (hopens : (a.welcome hello now).state.session = some t) :
    (a.welcome hello now).state.id = a.id ∧ t = a.openSession hello now := by
  rcases a.welcome_session hello now with ⟨hid, hnone | hsome, -⟩
  · exact absurd (hnone.symm.trans hopens) nofun
  · exact ⟨hid, Option.some_inj.1 (hopens.symm.trans hsome)⟩

/-- A hello that gives an agent a session for a mission, which it was not in, has
    opened this session. -/
theorem opened_of_receive {hello : Message} (hkind : hello.kind = .hello)
    (hnew : ∀ s, a.session = some s → s.mission ≠ m.id) {now : Nat}
    (hopens : (a.receive hello now).state.session = some t) (habout : t.mission = m.id) :
    (a.receive hello now).state.id = a.id ∧ t = a.openSession hello now := by
  -- A session that was there before is for another mission.
  have hold : a.session ≠ some t := fun hs => hnew t hs habout
  rw [receive] at hopens ⊢
  split at hopens
  · rename_i hid
    rw [if_pos hid]
    simp only [hkind] at hopens ⊢
    cases hs : a.session with
    | none =>
        simp only [onHello, hs] at hopens ⊢
        exact opened_of_welcome hopens
    | some s =>
        simp only [onHello, hs] at hopens ⊢
        split at hopens
        · cases hopens
          exact absurd ((s.heard_mission now).symm.trans habout) (hnew s hs)
        · -- A session that is not busy with another mission gives way.
          rename_i hother
          rw [if_neg hother]
          split at hopens
          · exact absurd hopens hold
          · rename_i hfree
            rw [if_neg hfree]
            exact opened_of_welcome hopens
  · exact absurd hopens hold

/-- In a session that has just opened nothing has arrived. -/
theorem stands_openSession {hello : Message} (hsends : m.Sends a.id frags transfer)
    (habout : hello.mission = m.id) (now : Nat) :
    (a.openSession hello now).Stands m a.id frags transfer [] := by
  refine .gathers (fun hall => hsends.ne_nil (List.subset_nil.1 hall)) ?_
  refine ⟨habout, .start .., .start now, [], rfl, .fresh rfl rfl, fun i => ?_⟩
  exact ⟨fun h => absurd h List.not_mem_nil, fun h => absurd h List.not_mem_nil⟩

/-- A session that has opened for a mission receives it until every message of the
    transfer has arrived, in any order, any number of times and with any silence in
    between, and no longer. The message that completes the transfer starts the
    mission, just as it was sent, and is acknowledged once as complete; so is every
    message of the transfer from then on, and does nothing more. -/
theorem transfer_completes {timing : Timing} {supervisor : Supervisor} (hm : m.Fits)
    (hprepared : Supervisor.prepare timing a.id m = .ok supervisor) {hello : Message}
    (hkind : hello.kind = .hello) (hnew : ∀ s, a.session = some s → s.mission ≠ m.id)
    {opening : Nat} (hopens : (a.receive hello opening).state.session = some t)
    (habout : t.mission = m.id) {inputs : List Input}
    (hinputs : ∀ i ∈ inputs, i.Concerns m supervisor.transfer)
    (hlasts : ∀ reason, .sessionClosed m.id reason ∉
      ((a.receive hello opening).state.run inputs).events) :
    let transfer := supervisor.transfer
    let b := ((a.receive hello opening).state.run inputs).state
    (¬ transfer ⊆ arrivals inputs →
      b.phase = .respondedAvailable ∨ b.phase = .receivingFragments) ∧
    (transfer ⊆ arrivals inputs → b.isBusy = true) ∧
    ∀ x ∈ transfer, ∀ now,
      let r := b.receive x now
      (¬ transfer ⊆ arrivals inputs ++ [x] → r.events = []) ∧
      (¬ transfer ⊆ arrivals inputs → transfer ⊆ arrivals inputs ++ [x] →
        r.events = [.missionStarted m] ∧ (∃ ack, r.messages = [ack] ∧ ack.Completes x) ∧
        r.state.phase = .executing) ∧
      (transfer ⊆ arrivals inputs →
        r.state = b ∧ r.events = [] ∧ ∃ ack, r.messages = [ack] ∧ ack.Completes x) := by
  intro transfer b
  rcases Supervisor.of_prepare hprepared with ⟨transfer', htransfer, rfl⟩
  rcases Mission.sends_of_transferMessages htransfer with ⟨frags, hsends⟩
  rcases opened_of_receive hkind hnew hopens habout with ⟨hid, rfl⟩
  have hopened := stands_openSession hsends habout opening
  rw [← hid] at hsends hopened
  rcases stands_run hm hsends hopens hopened hinputs hlasts with ⟨hid', t, ht, hstands⟩
  rw [← hid'] at hsends hstands
  refine ⟨fun hshort => ?_, fun hall => ?_, fun x hx now => ⟨fun hshort => ?_, ?_, fun hall => ?_⟩⟩
  · rw [phase, ht]
    exact (hstands.of_short hshort).phase
  · rw [isBusy, ht]
    exact hstands.isBusy_iff.2 hall
  · -- Something is missing even with this message.
    have hgathers := hstands.of_short
      (fun hall => hshort (List.subset_append_of_subset_left _ hall))
    cases progresses_receive ht hgathers hm hsends hx now with
    | goes_on short session gathers events => exact events
    | starts all session mission stage ack events => exact absurd all hshort
  · -- This message is the last that was missing.
    intro hshort hall
    cases progresses_receive ht (hstands.of_short hshort) hm hsends hx now with
    | goes_on short session gathers events => exact absurd hall short
    | starts all session mission stage ack events =>
        rcases stage with ⟨e, he⟩
        refine ⟨events, ack, ?_⟩
        rw [phase, session]
        simp only [AgentSession.phase, he]
  · -- Nothing was missing before.
    rcases hstands.of_all hall with ⟨hmission, hbusy⟩
    have hagain : b.receive x now = _ :=
      receive_member_of_busy ht hmission hbusy hsends hx now
    rw [hagain]
    exact ⟨rfl, rfl, _, rfl, t.completes_missionAck _ x⟩

/-- Of three fragments the last is repeated and the rover is polled before the others
    come, and the first completes the transfer. -/
theorem transfer_completes_fragments :
    let m : Mission := ⟨1, .zero, .zero, .zero, .zero, "scan", 60, 2, 0, 1⟩
    let a : Agent := .start 7 {} (.start {} .zero .zero .hundred none)
    let hello : Message := { kind := .hello, sender := 0, receiver := 7, mission := 1, seq := 1 }
    ∃ s x y z, Supervisor.prepare { fragmentSize := 96 } 7 m = .ok s ∧ s.transfer = [x, y, z] ∧
      let b := ((a.receive hello 0).state.run [.hear z 1, .wait 2, .hear z 3, .hear y 4]).state
      b.isBusy = false ∧ (b.receive x 5).events = [.missionStarted m] := by
  intro m a hello
  have hrun : ∃ s, Supervisor.prepare { fragmentSize := 96 } a.id m = .ok s ∧
      ∃ x ∈ s.transfer, ∃ y ∈ s.transfer, ∃ z ∈ s.transfer, s.transfer = [x, y, z] ∧
        x ≠ y ∧ x ≠ z ∧
        ((a.receive hello 0).state.run [.hear z 1, .wait 2, .hear z 3, .hear y 4]).events = [] ∧
        ((a.receive hello 0).state.run [.hear z 1, .wait 2, .hear z 3, .hear y 4]).state.isBusy =
          false :=
    Supervisor.exists_prepare_of_check (by decide +kernel)
  have hopens : (a.receive hello 0).state.session = some (a.openSession hello 0) := by
    decide +kernel
  have hm : m.Fits := by decide
  have hnew : ∀ s, a.session = some s → s.mission ≠ m.id := fun _ => nofun
  have hkind : hello.kind = .hello := rfl
  have habout : (a.openSession hello 0).mission = m.id := rfl
  change ∃ s x y z, Supervisor.prepare { fragmentSize := 96 } a.id m = .ok s ∧ _
  -- From here on only what has been shown of the values is used.
  clear_value a m hello
  rcases hrun with ⟨s, hs, x, hx, y, hy, z, hz, hxyz, hne, hne', hevents, hfree⟩
  refine ⟨s, x, y, z, hs, hxyz, hfree, ?_⟩
  have hlasts : ∀ reason, .sessionClosed m.id reason ∉
      ((a.receive hello 0).state.run [.hear z 1, .wait 2, .hear z 3, .hear y 4]).events := by
    rw [hevents]
    exact fun _ => List.not_mem_nil
  have hinputs : ∀ i ∈ ([.hear z 1, .wait 2, .hear z 3, .hear y 4] : List Input),
      i.Concerns m s.transfer := by
    simp only [List.forall_mem_cons, Input.Concerns]
    exact ⟨.inl hz, trivial, .inl hz, .inl hy, fun i hi => absurd hi List.not_mem_nil⟩
  have hcompletes := transfer_completes hm hs hkind hnew hopens habout hinputs hlasts
  have harrivals : arrivals [.hear z 1, .wait 2, .hear z 3, .hear y 4] = [z, z, y] := rfl
  refine ((hcompletes.2.2 x hx 5).2.1 ?_ ?_).1
  · intro hall
    have hmem := hall hx
    simp only [harrivals, List.mem_cons, List.not_mem_nil, hne, hne', or_self] at hmem
  · rw [hxyz, harrivals]
    simp

end Agent

end RoverDispatch
