import RoverDispatch.Proofs.Session.Lifecycles
import RoverDispatch.Proofs.Session.PendingReports

/-!
# Acknowledgements of a Transfer

An agent never acknowledges what it has not got, whoever talks to it.

The coordinator takes an acknowledgement that misses nothing for the whole
mission, and repeats what any other one lists. An agent acknowledges in several
places: a fragment can complete the window, leave gaps or be known already; it
can fail to make a mission with the others, so that all is forgotten; silence
makes the agent ask; and a mission that is under way is acknowledged again.
Wherever it does, what it says holds of the session as it is then.
`AgentSession.Backs` says so, and every reaction keeps it together with what
makes it true, which is that a session that is not busy misses something.

Nothing is assumed about the messages. Transfers can contradict each other and
fragments can be of any mission; a window is unfinished because nothing but a
reset or the start of the mission follows its completion.

## Main definitions

* `Reception.Unfinished`: Something is missing, if it is known how much there is.
* `Reception.Yields`: What a fragment leads to.
* `AgentSession.Regular`: What holds of every session at its stage.
* `AgentSession.Backs`: What an acknowledgement says is so.
* `Agent.Proceeds`: What a reaction of an agent keeps.

## Theorems

* `Reception.yields_take`: Whatever a fragment brings, its outcome is listed.
* `Agent.proceeds_receive`, `Agent.proceeds_poll`: Every reaction is regular.
* `Agent.regular_run`: So is every agent after any inputs.
* `Agent.acknowledgements_backed`: What an agent acknowledges, it has got.
-/

namespace RoverDispatch

namespace Reception

variable {r : Reception} {w w' : Window} {seq : Int}

/-- Something is missing, if it is known how much there is. -/
def Unfinished (r : Reception) : Prop := ∀ w, r.window = some w → w.Unfinished

theorem unfinished_start (now : Nat) : (Reception.start now).Unfinished := by
  intro w hw
  cases hw

theorem unfinished_of_window (hr : r.window = some w) (h : w.Unfinished) : r.Unfinished := by
  intro w' hw'
  cases hr.symm.trans hw'
  exact h

/-- Whether something is missing is said by the window alone. -/
theorem Unfinished.congr {r' : Reception} (h : r.Unfinished) (hr : r'.window = r.window) :
    r'.Unfinished := by
  rw [Unfinished, hr]
  exact h

/-- Numbers to ask for: some that the window misses. The last number is asked for
    only when nothing has been seen, since it is what makes the agent ask. -/
structure Asks (w : Window) (missing : List Int) : Prop where
  ne : missing ≠ []
  misses : w.Misses missing
  last : w.last ∈ missing → w.seen = []

/-- What a fragment leads to: a mission, or an unfinished reception that asks for
    nothing or for what it misses. -/
inductive Yields : Reception × Verdict → Prop where
  | complete (r : Reception) (m : Mission) : Yields (r, .complete m)
  | silent {r : Reception} (unfinished : r.Unfinished) : Yields (r, .silent)
  | ask {r : Reception} {w : Window} (window : r.window = some w) (unfinished : w.Unfinished)
      {missing : List Int} (asks : Asks w missing) : Yields (r, .ask missing)

/-- Leaving out what was asked for before leaves numbers to ask for, or none. -/
theorem yields_ask (hr : r.window = some w) (h : w.Unfinished) {seqs : List Int}
    (hmisses : w.Misses seqs) (hlast : w.last ∉ seqs) (hold now : Nat) :
    Yields (r.ask seqs hold now) := by
  simp only [ask]
  split
  · refine .silent (unfinished_of_window (w := w) ?_ h)
    exact hr
  · rename_i hne
    refine .ask (w := w) ?_ h ⟨hne, hmisses.filter _, fun hmem => ?_⟩
    · exact hr
    · exact absurd (List.mem_filter.1 hmem).1 hlast

/-- All is forgotten and asked for. -/
theorem yields_restart (h : 0 < w.total) (r : Reception) (now : Nat) :
    Yields (r.restart w now) := by
  have hreset : w.reset.Unfinished := Window.unfinished_of_seen_eq_nil rfl h
  simp only [restart]
  refine .ask ?_ hreset ⟨Window.missing_ne_nil hreset.room, w.reset.misses_missing, fun _ => rfl⟩
  rfl

/-- A number that is not new. -/
theorem yields_takeKnown (h : w.Unfinished) (hknown : w.record? seq = none) (r : Reception)
    (now : Nat) : Yields (r.takeKnown w seq now) := by
  simp only [takeKnown]
  split
  · rename_i hlast
    have hseen := h.last_mem_seen (hlast ▸ hknown)
    refine .ask (w := w) ?_ h ⟨Window.missing_ne_nil h.room, w.misses_missing, fun hmem => ?_⟩
    · rfl
    · exact absurd hmem (Window.last_not_mem_missing hseen)
  · exact .silent (unfinished_of_window rfl h)

/-- A number that is new. -/
theorem yields_takeNew (h : w.Unfinished) (hnew : w.record? seq = some w') (r : Reception)
    (t : Timing) (fields : List Field) (now : Nat) : Yields (r.takeNew t w' seq fields now) := by
  rcases Window.record?_eq_some hnew with ⟨-, -, he⟩
  simp only [takeNew]
  split
  · split
    · exact .complete _ _
    · refine yields_restart ?_ _ now
      rw [he]
      exact h.total_pos
  · rename_i hopen
    have h' := h.record hnew (eq_false_of_ne_true hopen)
    split
    · -- The last number has just been seen.
      rename_i hlast
      refine yields_ask ?_ h' w'.misses_missing ?_ _ _
      · rfl
      · refine Window.last_not_mem_missing ?_
        rw [← hlast, he]
        exact List.mem_cons_self ..
    · split
      · refine yields_ask ?_ h' h'.misses_gaps h'.last_not_mem_gaps _ _
        rfl
      · exact .silent (unfinished_of_window rfl h')

/-- Whatever a fragment brings, its outcome is one of those listed. -/
theorem yields_take (h : r.Unfinished) (t : Timing) (seq total : Int) (fields : List Field)
    (now : Nat) : Yields (r.take t seq total fields now) := by
  have hw : (r.window.getD (.start firstTransferSeq total)).Unfinished := by
    cases hr : r.window with
    | none => exact Window.unfinished_start _ _
    | some w => exact h w hr
  rw [take]
  split
  · rename_i hknown
    exact yields_takeKnown hw hknown r now
  · rename_i w' hnew
    exact yields_takeNew hw hnew r t fields now

end Reception

/-- What was sent are reports, and no acknowledgements. -/
theorem ReportQueue.Orderly.kind_ne_ack {q : ReportQueue} (h : q.Orderly) {x : Message}
    (hx : x ∈ q.sent) : x.kind ≠ .ack := by
  rcases h.reports x hx with ⟨report, he⟩
  intro hkind
  have hreport := report.isReport_kind
  rw [he] at hkind
  rw [show report.kind = .ack from hkind] at hreport
  cases hreport

/-- What a reception and a report queue are like at a stage. -/
def Stage.Allows (q : ReportQueue) : Stage → Prop
  | receiving r => r.Unfinished ∧ q.Fresh
  | executing _ => q.Open
  | reporting => q.Closing ∧ q.Pending

namespace AgentSession

variable {t : Timing} {s : AgentSession}

/-- What holds of every session of an agent with the given timing. -/
structure Regular (t : Timing) (s : AgentSession) : Prop where
  response : s.response.kind = .response
  reports : s.reports.Regular t
  stage : s.stage.Allows s.reports

/-- What an acknowledgement says of a transfer is so: the rover has the mission,
    or it misses what is listed. -/
inductive Backs (s : AgentSession) (x : Message) : Prop where
  | complete (mission : s.mission = x.mission) (busy : s.isBusy = true)
      (payload : x.payload = .ack ⟨[], false⟩)
  | missing (mission : s.mission = x.mission) {r : Reception} {w : Window}
      (stage : s.stage = .receiving r) (window : r.window = some w) {missing : List Int}
      (ne : missing ≠ []) (misses : w.Misses missing) (payload : x.payload = .ack ⟨missing, false⟩)

/-- The answer to a hello is no acknowledgement, however often it is given. -/
theorem Regular.response_ne_ack (h : s.Regular t) : ∀ x ∈ [s.response], x.kind ≠ .ack := by
  intro x hx
  cases List.mem_singleton.1 hx
  rw [h.response]
  decide

theorem Regular.silent (h : s.Regular t) : s.Silent := by
  intro hfree
  have hstage := h.stage
  rw [isBusy] at hfree
  cases hs : s.stage with
  -- Only while it receives a session is not busy, and then it has no reports.
  | receiving r =>
      rw [hs] at hstage
      exact hstage.2
  | executing e =>
      rw [hs] at hfree
      cases hfree
  | reporting =>
      rw [hs] at hfree
      cases hfree

theorem Regular.unfinished (h : s.Regular t) {r : Reception} (hr : s.stage = .receiving r) :
    r.Unfinished := by
  have hstage := h.stage
  rw [hr] at hstage
  exact hstage.1

/-- A session goes on receiving. -/
theorem Regular.receiving (h : s.Regular t) (hfree : s.isBusy = false) {r : Reception}
    (hr : r.Unfinished) (total : Int) : { s with total, stage := .receiving r }.Regular t :=
  { h with stage := ⟨hr, h.silent hfree⟩ }

/-- A session whose mission has started sends reports, and as long as the last
    one is not given up, it stays as it is. -/
theorem Regular.polling (h : s.Regular t) (hbusy : s.isBusy = true) {now : Nat}
    (hgiven : ∀ given, (s.reports.poll now).abandoned = some given → given.terminal = false) :
    { s with reports := (s.reports.poll now).queue }.Regular t where
  response := h.response
  reports := h.reports.poll now
  stage := by
    have hstage := h.stage
    have hstream := (ReportQueue.sends_poll h.reports.orderly now).stream
    rw [isBusy] at hbusy
    cases hs : s.stage with
    | receiving r =>
        rw [hs] at hbusy
        cases hbusy
    -- Polling does not change what has been put into the queue, only how much is left of it.
    | executing e =>
        rw [hs] at hstage
        change ReportQueue.Open _
        rw [ReportQueue.Open, hstream]
        exact hstage
    | reporting =>
        rw [hs] at hstage
        refine ⟨?_, hstage.1.pending_poll h.reports.orderly hstage.2 hgiven⟩
        rw [ReportQueue.Closing, hstream]
        exact hstage.1

/-- A session of which a report other than the last is confirmed. -/
theorem Regular.confirming (h : s.Regular t) (hbusy : s.isBusy = true) {seq : Int} {ack : Ack}
    {c : Confirmation} (hc : s.reports.confirm? seq ack = some c) (hgoing : c.terminal = false) :
    { s with reports := c.queue }.Regular t where
  response := h.response
  reports := h.reports.confirm hc
  stage := by
    have hstage := h.stage
    have hstream := (ReportQueue.sends_confirm h.reports.orderly hc).stream
    rcases ReportQueue.confirm?_eq_some hc with ⟨f, hflight, -, hqueue, -, hterminal, -⟩
    rw [isBusy] at hbusy
    cases hs : s.stage with
    | receiving r =>
        rw [hs] at hbusy
        cases hbusy
    | executing e =>
        rw [hs] at hstage
        change ReportQueue.Open _
        rw [ReportQueue.Open, hstream]
        exact hstage
    | reporting =>
        rw [hs] at hstage
        refine ⟨?_, ?_⟩
        · rw [ReportQueue.Closing, hstream]
          exact hstage.1
        · -- What ends the mission was not what is confirmed, so it is still to come.
          change ReportQueue.Pending c.queue
          rw [hqueue]
          exact hstage.1.pending_landing h.reports.orderly hflight (hterminal.symm.trans hgoing)

/-- When the mission has arrived, it starts. -/
theorem Regular.executing (h : s.Regular t) (hfree : s.isBusy = false) (total : Int)
    (e : Execution) : { s with total, stage := .executing e }.Regular t :=
  { h with stage := (h.silent hfree).isOpen }

end AgentSession

namespace Agent

/-- Every session of an agent is regular. -/
def Regular (a : Agent) : Prop := ∀ s ∈ a.session, s.Regular a.timing

/-- What a reaction of an agent keeps: its session is regular, and what it
    acknowledges is so. -/
structure Proceeds (a : Agent) (r : AgentReaction) : Prop where
  timing : r.state.timing = a.timing
  simulation : r.state.rover.simulation = a.rover.simulation
  regular : r.state.Regular
  backed : ∀ x ∈ r.messages, x.kind = .ack → ∃ s, r.state.session = some s ∧ s.Backs x

variable {a : Agent} {s : AgentSession}

/-- Messages that acknowledge nothing. -/
theorem backed_of_ne_ack {messages : List Message} (h : ∀ x ∈ messages, x.kind ≠ .ack)
    {P : Message → Prop} : ∀ x ∈ messages, x.kind = .ack → P x :=
  fun x hx hkind => absurd hkind (h x hx)

theorem ne_ack_of_nil : ∀ x ∈ ([] : List Message), x.kind ≠ .ack :=
  fun _ hx => absurd hx List.not_mem_nil

/-- Nothing happens to the agent but that it says something. -/
theorem Proceeds.same (h : a.Regular) {messages : List Message} {events : List AgentEvent}
    (hm : ∀ x ∈ messages, x.kind ≠ .ack) : a.Proceeds { state := a, messages, events } :=
  ⟨rfl, rfl, h, backed_of_ne_ack hm⟩

/-- The session goes on. -/
theorem Proceeds.within {b : Agent} (htiming : b.timing = a.timing)
    (hsimulation : b.rover.simulation = a.rover.simulation) (hs : s.Regular a.timing)
    {messages : List Message} {events : List AgentEvent}
    (hm : ∀ x ∈ messages, x.kind = .ack → s.Backs x) :
    a.Proceeds { state := b.within s, messages, events } where
  timing := htiming
  simulation := hsimulation
  regular := by
    rintro s' hs'
    cases hs'
    exact htiming.symm ▸ hs
  backed := fun x hx hkind => ⟨s, rfl, hm x hx hkind⟩

/-- The session is gone. -/
theorem Proceeds.without {r : AgentReaction} (htiming : r.state.timing = a.timing)
    (hsimulation : r.state.rover.simulation = a.rover.simulation) (hnone : r.state.session = none)
    (hm : ∀ x ∈ r.messages, x.kind ≠ .ack) : a.Proceeds r where
  timing := htiming
  simulation := hsimulation
  regular := by
    intro s hs
    cases hnone.symm.trans hs
  backed := backed_of_ne_ack hm

/-- A reaction of an agent that differs in its rover only. -/
theorem Proceeds.of_rover {b : Agent} {r : AgentReaction} (htiming : b.timing = a.timing)
    (hsimulation : b.rover.simulation = a.rover.simulation) (h : b.Proceeds r) : a.Proceeds r :=
  ⟨h.timing.trans htiming, h.simulation.trans hsimulation, h.regular, h.backed⟩

/-! ### Messages -/

theorem response_ne_ack (a : Agent) (hello : Message) (available : Bool) :
    ∀ x ∈ [a.response hello available], x.kind ≠ .ack := by
  intro x hx
  cases List.mem_singleton.1 hx
  exact (by decide : Kind.response ≠ .ack)

theorem proceeds_welcome (a : Agent) (hello : Message) (now : Nat) :
    a.Proceeds (a.welcome hello now) := by
  rw [welcome]
  split
  · exact .without rfl rfl rfl (response_ne_ack { a with session := none } hello false)
  · refine .within rfl rfl ?_ (backed_of_ne_ack (a.response_ne_ack hello true))
    exact {
      response := rfl, reports := .start ..
      stage := ⟨Reception.unfinished_start now, .start ..⟩ }

theorem proceeds_onHello (h : a.Regular) (hello : Message) (now : Nat) :
    a.Proceeds (a.onHello hello now) := by
  cases hs : a.session with
  | none =>
      simp only [onHello, hs]
      exact a.proceeds_welcome hello now
  | some s =>
      have hregular := h s hs
      simp only [onHello, hs]
      split
      · refine .within rfl rfl ?_ (backed_of_ne_ack hregular.response_ne_ack)
        -- To be heard of changes neither the window nor the reports.
        rw [AgentSession.heard]
        split
        · rename_i r hr
          refine hregular.receiving (AgentSession.isBusy_eq hr) ?_ s.total
          exact (hregular.unfinished hr).congr rfl
        · exact hregular
      · split
        · exact .same h (a.response_ne_ack hello false)
        · have hwelcome := a.proceeds_welcome hello now
          exact ⟨hwelcome.timing, hwelcome.simulation, hwelcome.regular, hwelcome.backed⟩

/-- The mission starts, and this is what is acknowledged. -/
theorem proceeds_execute (hs : s.Regular a.timing) (hfree : s.isBusy = false) (total seq : Int)
    (stage : Stage) (m : Mission) (now : Nat) :
    a.Proceeds (a.execute { s with total, stage } seq m now) := by
  have hbacked : ∀ x ∈ [{ s with total, stage }.missionAck a.id seq []], x.kind = .ack →
      { s with total, stage := .executing (.start m now) }.Backs x := by
    intro x hx _
    cases List.mem_singleton.1 hx
    exact .complete rfl rfl rfl
  exact .within (a := a) (b := { a with rover := a.rover.begin }) rfl rfl
    (hs.executing hfree total (.start m now)) hbacked

theorem proceeds_onFragment (hs : s.Regular a.timing) (hfree : s.isBusy = false) {r : Reception}
    (hr : r.Unfinished) (x : Message) (fields : List Field) (now : Nat) :
    a.Proceeds (a.onFragment s r x fields now) := by
  have hyields := Reception.yields_take hr a.timing x.seq x.total fields now
  simp only [onFragment]
  generalize r.take a.timing x.seq x.total fields now = taken at hyields ⊢
  cases hyields with
  -- The mission is complete and starts at once; otherwise the session goes on receiving.
  | complete r' m => exact proceeds_execute hs hfree _ _ _ m now
  | silent unfinished =>
      exact .within rfl rfl (hs.receiving hfree unfinished _) (backed_of_ne_ack ne_ack_of_nil)
  | ask window unfinished asks =>
      refine .within rfl rfl (hs.receiving hfree ?_ _) (fun y hy _ => ?_)
      · exact Reception.unfinished_of_window window unfinished
      · cases List.mem_singleton.1 hy
        exact .missing rfl rfl window asks.ne asks.misses rfl

theorem proceeds_onTransfer (hs : s.Regular a.timing) {r : Reception} (hr : s.stage = .receiving r)
    (x : Message) (now : Nat) : a.Proceeds (a.onTransfer s r x now) := by
  have hfree : s.isBusy = false := AgentSession.isBusy_eq hr
  -- The time of the message is noted, and the window stays.
  have hnoted : { r with lastInbound := now, nudges := 0 }.Unfinished :=
    (hs.unfinished hr).congr rfl
  simp only [onTransfer]
  split
  · exact proceeds_execute hs hfree s.total _ s.stage _ now
  · split
    · exact proceeds_onFragment hs hfree hnoted x _ now
    · exact .within rfl rfl (hs.receiving hfree hnoted s.total) (backed_of_ne_ack ne_ack_of_nil)
  · exact .within rfl rfl (hs.receiving hfree hnoted s.total) (backed_of_ne_ack ne_ack_of_nil)

theorem proceeds_onMission (h : a.Regular) (x : Message) (now : Nat) :
    a.Proceeds (a.onMission x now) := by
  cases hs : a.session with
  | none =>
      simp only [onMission, hs]
      exact .same h ne_ack_of_nil
  | some s =>
      simp only [onMission, hs]
      split
      · exact .same h ne_ack_of_nil
      · split
        · rename_i r hr
          exact proceeds_onTransfer (h s hs) hr x now
        · -- A rover that has the mission says so again.
          rename_i hbusy
          refine ⟨rfl, rfl, h, fun y hy _ => ⟨s, hs, ?_⟩⟩
          cases List.mem_singleton.1 hy
          refine .complete rfl ?_ rfl
          rw [AgentSession.isBusy]
          cases hstage : s.stage with
          | receiving r => exact absurd hstage (hbusy r)
          | executing e => rfl
          | reporting => rfl

theorem proceeds_onAck (h : a.Regular) (x : Message) (now : Nat) : a.Proceeds (a.onAck x now) := by
  cases hs : a.session with
  | none =>
      simp only [onAck, hs]
      exact .same h ne_ack_of_nil
  | some s =>
      have hregular := h s hs
      simp only [onAck, hs]
      split
      · exact .same h ne_ack_of_nil
      · cases hc : s.reports.confirm? x.seq (ackIn x) with
        | none => exact .same h ne_ack_of_nil
        | some c =>
            have hbusy := AgentSession.isBusy_of_confirm hregular.silent hc
            have hsends := ReportQueue.sends_confirm hregular.reports.orderly hc
            rcases ReportQueue.confirm?_eq_some hc with ⟨-, -, -, hqueue, -, -, hreplay⟩
            simp only [onConfirmed]
            split
            · exact .without rfl rfl rfl
                (fun y hy => hregular.reports.orderly.kind_ne_ack (hreplay y hy))
            · rename_i hgoing
              have hconfirmed := hregular.confirming hbusy hc (eq_false_of_ne_true hgoing)
              -- With nothing in flight, nothing is given up.
              have hgiven : (c.queue.poll now).abandoned = none :=
                ReportQueue.abandoned_of_landed (by rw [hqueue]) now
              have hpolled := hconfirmed.polling hbusy (fun given hg =>
                absurd (hg.symm.trans hgiven) (Option.some_ne_none given))
              have hnext := hsends.after (by rw [hqueue])
                (ReportQueue.sends_poll hsends.orderly now)
              exact .within rfl rfl hpolled
                (backed_of_ne_ack (fun y hy => hnext.orderly.kind_ne_ack (hnext.known y hy)))

/-- What a message leads to. -/
theorem proceeds_receive (h : a.Regular) (x : Message) (now : Nat) :
    a.Proceeds (a.receive x now) := by
  rw [receive]
  split
  · split
    · exact proceeds_onHello h x now
    · exact proceeds_onMission h x now
    · exact proceeds_onAck h x now
    · exact .same h ne_ack_of_nil
  · exact .same h ne_ack_of_nil

/-! ### Time -/

/-- Recovery changes the rover's fault only. -/
theorem proceeds_recover (h : a.Regular) (now : Nat) : a.Proceeds (.quiet (a.recover now)) := by
  rw [recover]
  split
  · exact .same h ne_ack_of_nil
  · split
    · exact .same h ne_ack_of_nil
    · exact ⟨rfl, rfl, h, backed_of_ne_ack ne_ack_of_nil⟩

theorem proceeds_pollTransfer (h : a.Regular) (now : Nat) : a.Proceeds (a.pollTransfer now) := by
  rw [pollTransfer]
  split
  · exact .same h ne_ack_of_nil
  · rename_i s hs
    have hregular := h s hs
    split
    · rename_i r hr
      have hfree : s.isBusy = false := AgentSession.isBusy_eq hr
      split
      · exact .same h ne_ack_of_nil
      · split
        · exact .without rfl rfl rfl ne_ack_of_nil
        · -- What is asked for out of silence is all that is missing.
          rw [Reception.nudge]
          cases hw : r.window with
          | none =>
              exact .within rfl rfl
                (hregular.receiving hfree ((hregular.unfinished hr).congr hw.symm) s.total)
                (backed_of_ne_ack ne_ack_of_nil)
          | some w =>
              have hunfinished := hregular.unfinished hr
              have hmissing := Window.missing_ne_nil (hunfinished w hw).room
              refine .within rfl rfl
                (hregular.receiving hfree (hunfinished.congr hw.symm) s.total) (fun y hy _ => ?_)
              cases List.mem_singleton.1 hy
              exact .missing rfl rfl rfl hmissing w.misses_missing rfl
    · exact .same h ne_ack_of_nil

theorem proceeds_pollExecution (h : a.Regular) (now : Nat) :
    a.Proceeds (.quiet (a.pollExecution now)) := by
  cases hs : a.session with
  | none =>
      simp only [pollExecution, hs]
      exact .same h ne_ack_of_nil
  | some s =>
      have hregular := h s hs
      have hstage := hregular.stage
      cases hr : s.stage with
      | receiving r =>
          simp only [pollExecution, hs, hr]
          exact .same h ne_ack_of_nil
      | reporting =>
          simp only [pollExecution, hs, hr]
          exact .same h ne_ack_of_nil
      | executing e =>
          rw [hr] at hstage
          simp only [pollExecution, hs, hr]
          have hsound : Drive.Sound ⟨e, a.rover, s.reports, false⟩ :=
            ⟨hregular.reports.orderly, fun _ => hstage, fun he => absurd he Bool.false_ne_true⟩
          -- The ticks that are due, as what is known of them.
          have hticks := Drive.ticks_sound hsound (now / 1000 : Nat) (e.due a.rover now)
          have hreports := Drive.regular_ticks hsound hregular.reports (now / 1000 : Nat)
            (e.due a.rover now)
          have hpending := Drive.pending_ticks hsound rfl (now / 1000 : Nat) (e.due a.rover now)
          have hsimulation := Drive.simulation_ticks ⟨e, a.rover, s.reports, false⟩
            (now / 1000 : Nat) (e.due a.rover now)
          generalize Drive.ticks _ _ _ = d at hticks hreports hpending hsimulation ⊢
          have hgoes : { s with
              stage := if d.ended then .reporting else .executing d.execution
              reports := d.reports }.Regular a.timing := by
            refine ⟨hregular.response, hreports, ?_⟩
            cases hended : d.ended with
            | true => exact ⟨hticks.1.closing hended, hpending hended⟩
            | false => exact hticks.1.going hended
          exact .within (a := a) (b := { a with rover := d.rover }) rfl hsimulation hgoes
            (backed_of_ne_ack ne_ack_of_nil)

/-- What is sent out of a queue goes out. The session closes when its last report
    is given up, and goes on otherwise. -/
theorem pollReports_cases (hs : a.session = some s) (now : Nat) :
    (a.pollReports now).messages = (s.reports.poll now).messages ∧
      ((∃ given, (s.reports.poll now).abandoned = some given ∧ given.terminal = true ∧
          (a.pollReports now).state =
            (a.close { s with reports := (s.reports.poll now).queue } .unconfirmed now).state) ∨
        (∀ given, (s.reports.poll now).abandoned = some given → given.terminal = false) ∧
          (a.pollReports now).state = a.within { s with reports := (s.reports.poll now).queue }) := by
  simp only [pollReports, hs]
  cases hgiven : (s.reports.poll now).abandoned with
  | none =>
      exact ⟨rfl, .inr ⟨fun given hg => absurd hg.symm (Option.some_ne_none given), rfl⟩⟩
  | some given =>
      cases hterminal : given.terminal with
      | true =>
          refine ⟨rfl, .inl ⟨given, rfl, hterminal, ?_⟩⟩
          simp only [hterminal, if_true]
      -- Progress can be given up without an end to the session.
      | false =>
          refine ⟨rfl, .inr ⟨?_, ?_⟩⟩
          · rintro g ⟨⟩
            exact hterminal
          · simp only [hterminal]
            rfl

theorem proceeds_pollReports (h : a.Regular) (now : Nat) : a.Proceeds (a.pollReports now) := by
  cases hs : a.session with
  | none =>
      rw [pollReports_of_fresh (fun s hs' => absurd (hs'.symm.trans hs) (Option.some_ne_none s))]
      exact .same h ne_ack_of_nil
  | some s =>
      have hregular := h s hs
      by_cases hbusy : s.isBusy = true
      · -- Whatever is sent is in the queue, which holds reports.
        have hsends := ReportQueue.sends_poll hregular.reports.orderly now
        have hreports : ∀ x ∈ (s.reports.poll now).messages, x.kind ≠ .ack :=
          fun x hx => hsends.orderly.kind_ne_ack (hsends.known x hx)
        rcases pollReports_cases hs now with ⟨hm, ⟨-, -, -, hstate⟩ | ⟨hgoing, hstate⟩⟩
        · refine .without ?_ ?_ ?_ (hm ▸ hreports)
          · rw [hstate]
            rfl
          · rw [hstate]
            rfl
          · rw [hstate]
            rfl
        · have hwithin : a.Proceeds {
              state := a.within { s with reports := (s.reports.poll now).queue }
              messages := (s.reports.poll now).messages
              events := (a.pollReports now).events } :=
            .within rfl rfl (hregular.polling hbusy hgoing) (backed_of_ne_ack hreports)
          rw [← hstate, ← hm] at hwithin
          exact hwithin
      · rw [pollReports_of_fresh]
        · exact .same h ne_ack_of_nil
        · intro s' hs'
          cases hs.symm.trans hs'
          exact hregular.silent (eq_false_of_ne_true hbusy)

theorem Regular.silent (h : a.Regular) : ∀ s ∈ a.session, s.Silent :=
  fun s hs => (h s hs).silent

/-- A rover that has its mission waits for no transfer. -/
theorem pollTransfer_of_busy (hbusy : a.isBusy = true) (now : Nat) :
    a.pollTransfer now = .quiet a := by
  rw [pollTransfer]
  split
  · rfl
  · rename_i s hs
    split
    · rename_i r hr
      rw [isBusy, hs] at hbusy
      cases (AgentSession.isBusy_eq hr).symm.trans hbusy
    · rfl

theorem isBusy_recover (a : Agent) (now : Nat) : (a.recover now).isBusy = a.isBusy := by
  rw [isBusy, (a.recover_eq now).1, isBusy]

/-- Once the mission has started, a poll is all about the mission and its reports. -/
theorem poll_of_busy (hbusy : a.isBusy = true) (now : Nat) :
    a.poll now = ((a.recover now).pollExecution now).pollReports now := by
  rw [poll, pollTransfer_of_busy ((a.isBusy_recover now).trans hbusy)]
  rfl

/-- Before that, it is all about the transfer. -/
theorem poll_of_not_busy (h : ∀ s ∈ a.session, s.Silent) (hfree : a.isBusy = false) (now : Nat) :
    a.poll now = (a.recover now).pollTransfer now := by
  have hrecover := (a.recover_eq now).1
  -- Polling the transfer starts no mission, so there is nothing to report after it.
  refine poll_of_free now (fun s hs => ?_)
  rcases pollTransfer_cases (hrecover ▸ h) now with ⟨-, hsilent, hlasts, -⟩ | ⟨t, -, -, hclose⟩
  · rw [hs] at hlasts
    cases ht : (a.recover now).session with
    | none =>
        rw [ht] at hlasts
        cases hlasts
    | some t =>
        rw [ht] at hlasts
        cases hlasts with
        | within mission busy =>
            rw [isBusy, ← hrecover, ht] at hfree
            have hfree' : s.isBusy = false := busy.trans hfree
            exact ⟨hfree', hsilent s hs hfree'⟩
  · rw [hclose] at hs
    cases hs

/-- What the passing of time leads to. -/
theorem proceeds_poll (h : a.Regular) (now : Nat) : a.Proceeds (a.poll now) := by
  have hrecover := proceeds_recover h now
  cases hbusy : a.isBusy with
  | false =>
      rw [poll_of_not_busy h.silent hbusy]
      exact .of_rover hrecover.timing hrecover.simulation
        (proceeds_pollTransfer hrecover.regular now)
  | true =>
      rw [poll_of_busy hbusy]
      have hexecution := proceeds_pollExecution hrecover.regular now
      have hreports := proceeds_pollReports hexecution.regular now
      exact .of_rover (hexecution.timing.trans hrecover.timing)
        (hexecution.simulation.trans hrecover.simulation) hreports

/-! ### Inputs -/

theorem Regular.start (id : Int) (timing : Timing) (rover : Rover) :
    (Agent.start id timing rover).Regular := by
  intro s hs
  cases hs

/-- What an input leads to. -/
theorem proceeds (h : a.Regular) (i : Input) : a.Proceeds (a.react i) := by
  cases i with
  | hear x now => exact proceeds_receive h x now
  | wait now => exact proceeds_poll h now
  | inject fault => exact ⟨rfl, rfl, h, backed_of_ne_ack ne_ack_of_nil⟩
  | clearFault => exact ⟨rfl, rfl, h, backed_of_ne_ack ne_ack_of_nil⟩

/-- Every agent is regular after any inputs, and made as it was. -/
theorem regular_run (h : a.Regular) (inputs : List Input) :
    (a.run inputs).state.Regular ∧ (a.run inputs).state.timing = a.timing ∧
      (a.run inputs).state.rover.simulation = a.rover.simulation := by
  induction inputs using List.reverseRecOn with
  | nil => exact ⟨h, rfl, rfl⟩
  | append_singleton inputs i ih =>
      rw [run_concat]
      have hnext := proceeds ih.1 i
      exact ⟨hnext.regular, hnext.timing.trans ih.2.1, hnext.simulation.trans ih.2.2⟩

/-- What an agent acknowledges, it has got. At any time a session that is not
    busy misses something of what it knows to come. An acknowledgement that
    misses nothing comes from a session that has the mission, and any other one
    lists, increasing, numbers of the transfer that have not been seen. -/
theorem acknowledgements_backed (id : Int) (timing : Timing) (rover : Rover) (inputs : List Input)
    (i : Input) :
    let a := ((Agent.start id timing rover).run inputs).state
    (∀ s, a.session = some s → s.isBusy = false →
      ∀ r w, s.stage = .receiving r → r.window = some w → w.isComplete = false) ∧
    ∀ x ∈ (a.react i).messages, x.kind = .ack →
      ∃ s missing, (a.react i).state.session = some s ∧ s.mission = x.mission ∧
        x.payload = .ack ⟨missing, false⟩ ∧
        (missing = [] → s.isBusy = true) ∧
        (missing ≠ [] → missing.Pairwise (· < ·) ∧ ∃ r w, s.stage = .receiving r ∧
          r.window = some w ∧ ∀ seq ∈ missing, w.contains seq = true ∧ seq ∉ w.seen) := by
  intro a
  have ha : a.Regular := (regular_run (.start id timing rover) inputs).1
  refine ⟨fun s hs _ r w hr hw => ?_, fun x hx hkind => ?_⟩
  · exact ((ha s hs).unfinished hr w hw).isComplete_eq
  · -- What one step acknowledges is backed by the session that it leaves.
    rcases (proceeds ha i).backed x hx hkind with ⟨s, hs, hbacks⟩
    cases hbacks with
    | complete mission busy payload =>
        exact ⟨s, [], hs, mission, payload, fun _ => busy, fun hne => absurd rfl hne⟩
    | missing mission stage window ne misses payload =>
        exact ⟨s, _, hs, mission, payload, fun hnil => absurd hnil ne,
          fun _ => ⟨misses.increasing, _, _, stage, window, misses.unseen⟩⟩

/-- The last of three fragments comes first, so the agent asks for the others; the
    mission comes in one piece, and there is nothing to ask for any more. -/
theorem acknowledgements_backed_gap :
    let m : Mission := ⟨1, .zero, .zero, .zero, .zero, "scan", 60, 2, 0, 1⟩
    let hello : Message := { kind := .hello, sender := 0, receiver := 7, mission := 1 }
    let last : Message :=
      { hello with kind := .mission, seq := 4, total := 3, payload := .fragment [] }
    let a := ((Agent.start 7 {} (.start {} .zero .zero .hundred none)).run [.hear hello 0]).state
    let gap := a.react (.hear last 1)
    let whole := gap.state.react (.hear { last with seq := 2, payload := .mission m } 2)
    gap.messages.map (fun x => (x.kind, x.payload)) = [(.ack, .ack ⟨[2, 3], false⟩)] ∧
      (∃ s r w, gap.state.session = some s ∧ s.stage = .receiving r ∧ r.window = some w ∧
        w.isComplete = false ∧ 2 ∉ w.seen ∧ 3 ∉ w.seen) ∧
      whole.messages.map (fun x => (x.kind, x.payload)) = [(.ack, .ack ⟨[], false⟩)] ∧
      ∃ s, whole.state.session = some s ∧ s.isBusy = true := by
  intro m hello last a gap whole
  have hgap : gap.messages.map (fun x => (x.kind, x.payload)) =
      [(.ack, .ack ⟨[2, 3], false⟩)] := by decide +kernel
  have hwhole : whole.messages.map (fun x => (x.kind, x.payload)) =
      [(.ack, .ack ⟨[], false⟩)] := by decide +kernel
  have hbacked := acknowledgements_backed 7 {} (.start {} .zero .zero .hundred none)
  refine ⟨hgap, ?_, hwhole, ?_⟩
  · rcases List.map_eq_singleton_iff.1 hgap with ⟨x, hx, hsaid⟩
    rcases (hbacked [.hear hello 0] (.hear last 1)).2 x (hx ▸ List.mem_singleton_self x)
      (congrArg Prod.fst hsaid) with ⟨s, missing, hs, -, hlist, hbusy, hmissing⟩
    cases (congrArg Prod.snd hsaid).symm.trans hlist
    rcases hmissing nofun with ⟨-, r, w, hr, hw, hunseen⟩
    have hopen := (hbacked [.hear hello 0, .hear last 1] (.wait 0)).1 s hs
      (AgentSession.isBusy_eq hr) r w hr hw
    exact ⟨s, r, w, hs, hr, hw, hopen, (hunseen 2 (by decide)).2, (hunseen 3 (by decide)).2⟩
  · rcases List.map_eq_singleton_iff.1 hwhole with ⟨x, hx, hsaid⟩
    rcases (hbacked [.hear hello 0, .hear last 1] _).2 x (hx ▸ List.mem_singleton_self x)
      (congrArg Prod.fst hsaid) with ⟨s, missing, hs, -, hlist, hbusy, -⟩
    cases (congrArg Prod.snd hsaid).symm.trans hlist
    exact ⟨s, hs, hbusy rfl⟩

end Agent

end RoverDispatch
