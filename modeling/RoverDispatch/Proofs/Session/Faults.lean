import RoverDispatch.Proofs.Session.Schedules

/-!
# Faults

A rover that fails on a mission says so, unless it is cured by mistake.

A tick looks for a fault before anything else, so the first tick of a rover
that has one ends the mission with an error report. The report goes into a
queue in which nothing else waits any more and nothing terminal is in flight.
Hence the poll cannot close the session, and it leaves the agent reporting.

A poll does one thing before the ticks: it lets the rover recover when the time
has come. A session that closes on a failed rover sets this time, and as long
as the rover is failed no session opens. So the time is up before the next
mission starts, but for one case: the fault is taken away from outside, and
nothing takes away the time. Then the rover is as good as new, opens a session
and gets a mission, and when it fails on that one, the time that was set for
the old fault cures the new one. `Overstays` is what has gone before whenever
this happens.

## Main definitions

* `Rover.MayReport`: What a rover with a fault can report at its next tick.
* `Agent.due`: How many ticks are due.
* `Agent.ReportsFault`: A poll ends the mission with an error report.
* `Agent.Resting`: The rover has failed and is in no session.
* `Agent.SetsTime`: A time of recovery is new only for a rover at rest.
* `Agent.Overstays`: A time of recovery that has outlived its fault.
* `Agent.twoFaults`: A rover that is cured of its second fault by mistake.

## Theorems

* `Rover.exists_fault_step`: A rover with a fault keeps one.
* `Drive.ticks_of_fault`: A mission with a fault ends with its first tick.
* `ReportQueue.Closing.abandoned_of_waiting`: What is given up before the last
  report is sent is not the last.
* `Agent.reportsFault`: The fault is reported when the rover does not recover.
* `Agent.setsTime_receive`, `Agent.setsTime_poll`: Who sets a time of recovery.
* `Agent.resting_or_kept`: How long a rover rests.
* `Agent.resting_or_overstays`: Where a time of recovery comes from.
* `Agent.faults_reported`: A fault is reported unless an old time cures it.
-/

namespace RoverDispatch

/-! ### Failing -/

namespace Rover

variable {r : Rover}

/-- A rover with a fault has failed. -/
theorem failure?_eq_some {fault : Fault} (h : r.fault = some fault) : r.failure? = some fault := by
  rw [failure?, h]

/-- A move changes neither the fault nor the one to come. -/
theorem fault_moveTo (r : Rover) (target : Single × Single) :
    (r.moveTo target).fault = r.fault ∧ (r.moveTo target).scheduled = r.scheduled := by
  unfold moveTo
  by_cases hfar : r.simulation.speed.below
      (Single.hypot (target.1 - r.x) (target.2 - r.y)) = true
  · simp only [if_pos hfar, and_self]
  · simp only [if_neg hfar, and_self]

/-- What a rover with a fault can report at its next tick: the fault, or the one
    that was to come. -/
def MayReport (r : Rover) (fault : Fault) : Prop :=
  r.fault = some fault ∨ ∃ s, r.scheduled = some s ∧ s.fault = fault

/-- After a tick a rover with a fault has one that it may report. -/
theorem exists_fault_step (h : r.fault.isSome) (m : Mission) (elapsed duration : Nat) :
    ∃ fault, r.MayReport fault ∧ (r.step m elapsed duration).fault = some fault := by
  rcases Option.isSome_iff_exists.1 h with ⟨fault, hfault⟩
  rcases fault_moveTo { r with progress := percentOf elapsed duration } m.center with
    ⟨hmoved, hscheduled⟩
  simp only [step, strike]
  split
  · exact ⟨fault, .inl hfault, hmoved.trans hfault⟩
  · rename_i s hs
    split
    · exact ⟨s.fault, .inr ⟨s, hscheduled.symm.trans hs, rfl⟩, rfl⟩
    · exact ⟨fault, .inl hfault, hmoved.trans hfault⟩

end Rover

namespace Drive

variable {d : Drive}

/-- A tick of a rover with a fault ends the mission with an error report. -/
theorem tick_of_fault (h : d.rover.fault.isSome) (timestamp : Int) :
    d.moved.rover.fault.isSome ∧ ∃ report : ErrorReport, d.rover.MayReport report.fault ∧
      d.tick timestamp = d.moved.finish (.error report) := by
  rcases Rover.exists_fault_step h d.moved.execution.mission
    (d.moved.execution.lastTick - d.moved.execution.startedAt) d.moved.execution.duration with
    ⟨fault, hmay, hfault⟩
  have hmoved : d.moved.rover.fault = some fault := hfault
  refine ⟨hmoved ▸ rfl, d.moved.rover.report d.moved.reports.mission fault timestamp, hmay, ?_⟩
  -- A rover with a fault fails at its tick, whether the fault was there or has just come.
  unfold tick
  simp only
  split
  · rename_i fault' hfailure
    cases (Rover.failure?_eq_some hmoved).symm.trans hfailure
    rfl
  · rename_i hnone
    cases (Rover.failure?_eq_some hmoved).symm.trans hnone

/-- A mission of a rover with a fault ends with its first tick. -/
theorem ticks_of_fault (h : d.rover.fault.isSome) (hgoing : d.ended = false) (timestamp : Int)
    {n : Nat} (hn : 0 < n) :
    d.moved.rover.fault.isSome ∧ ∃ report : ErrorReport, d.rover.MayReport report.fault ∧
      d.ticks timestamp n = d.moved.finish (.error report) := by
  rcases d.tick_of_fault h timestamp with ⟨hmoved, report, hmay, htick⟩
  refine ⟨hmoved, report, hmay, ?_⟩
  rw [← Nat.succ_pred_eq_of_pos hn, ticks, if_neg (ne_true_of_eq_false hgoing), htick]
  exact ticks_of_ended rfl _ _

end Drive

/-- What is given up while the last report still waits is another one. -/
theorem ReportQueue.Closing.abandoned_of_waiting {q : ReportQueue} (h : q.Closing) (ho : q.Orderly)
    (hw : q.waiting ≠ []) {now : Nat} {given : Abandoned}
    (hgiven : (q.poll now).abandoned = some given) : given.terminal = false := by
  have hpolls := q.polls now
  generalize q.poll now = d at hpolls hgiven
  cases hpolls with
  | idle flight waiting => cases hgiven
  | waits f flight early => cases hgiven
  | repeats f flight due more => cases hgiven
  -- The last report is the only one that ends the mission, and it still waits.
  | givesUp f flight due spent last =>
      cases hgiven
      exact h.terminal_of_waiting ho flight hw
  | sends report waiting flight first => cases hgiven
  | replaces f report waiting flight due spent going first =>
      cases hgiven
      exact going

namespace Agent

variable {a : Agent} {s : AgentSession} {e : Execution} {now time : Nat}

/-- How many ticks are due on the mission of a rover, none if it has no mission or
    has ended it. -/
def due (a : Agent) (now : Nat) : Nat :=
  match a.session.map AgentSession.stage with
  | some (.executing e) => e.due a.rover now
  | _ => 0

theorem exists_executing_of_due (h : 0 < a.due now) :
    ∃ s e, a.session = some s ∧ s.stage = .executing e ∧ 0 < e.due a.rover now := by
  unfold due at h
  split at h
  · rename_i e hstage
    rcases Option.map_eq_some_iff.1 hstage with ⟨s, hs, he⟩
    exact ⟨s, e, hs, he, h⟩
  · exact absurd h (Nat.lt_irrefl 0)

/-- A poll ends the mission with an error report: it is all that waits, so neither
    progress nor completion goes out before it, and the agent is left reporting. -/
structure ReportsFault (a : Agent) (s : AgentSession) (now : Nat) (report : ErrorReport) :
    Prop where
  fault : a.rover.MayReport report.fault
  waiting : (s.reports.enqueue (.error report)).waiting = [.error report]
  messages : (a.poll now).messages = ((s.reports.enqueue (.error report)).poll now).messages
  session : (a.poll now).state.session = some { s with
    stage := .reporting, reports := ((s.reports.enqueue (.error report)).poll now).queue }
  keeps : (a.poll now).state.rover.fault.isSome

/-- The fault of a rover on a mission is reported when the rover does not recover. -/
theorem reportsFault (ha : a.Regular) (hs : a.session = some s) (he : s.stage = .executing e)
    (hfault : a.rover.fault.isSome) (hdue : 0 < e.due a.rover now)
    (hrecover : Ahead now a.recoverAt) : ∃ report, a.ReportsFault s now report := by
  have hbusy : a.isBusy = true := by
    rw [isBusy, hs]
    exact AgentSession.isBusy_eq he
  have hregular := ha s hs
  have hopen : s.reports.Open := by
    have hstage := hregular.stage
    rw [he] at hstage
    exact hstage
  let d : Drive := ⟨e, a.rover, s.reports, false⟩
  rcases d.ticks_of_fault hfault rfl (now / 1000 : Nat) hdue with ⟨hmoved, report, hmay, hticks⟩
  have hwaiting : (s.reports.enqueue (.error report)).waiting = [.error report] := by
    simp only [ReportQueue.enqueue, hopen.filter_waiting, List.nil_append]
  -- What a poll of the reports finds.
  let s' : AgentSession :=
    { s with stage := .reporting, reports := s.reports.enqueue (.error report) }
  let b : Agent := { a with rover := d.moved.rover, session := some s' }
  have hpoll : a.poll now = b.pollReports now := by
    rw [poll_of_busy hbusy, recover_of_ahead hrecover, pollExecution_executing hs he, hticks]
    rfl
  have hgoing : ∀ given, (s'.reports.poll now).abandoned = some given → given.terminal = false :=
    fun given hgiven => (hopen.enqueue_terminal rfl).abandoned_of_waiting
      (hregular.reports.orderly.enqueue _) (hwaiting ▸ List.cons_ne_nil _ _) hgiven
  have hb : b.session = some s' := rfl
  rcases pollReports_cases hb now with ⟨hmessages, ⟨given, hgiven, hterminal, -⟩ | ⟨-, hstate⟩⟩
  · cases (hgoing given hgiven).symm.trans hterminal
  · refine ⟨report, hmay, hwaiting, ?_, ?_, ?_⟩
    · rw [hpoll, hmessages]
    · rw [hpoll, hstate]
      rfl
    · rw [hpoll, hstate]
      exact hmoved

/-! ### Recovering -/

/-- The rover has failed and is in no session. -/
def Resting (a : Agent) : Prop := a.session = none ∧ a.rover.failure?.isSome

/-- A time of recovery is new only for a rover at rest. -/
def SetsTime (a b : Agent) : Prop := b.recoverAt = a.recoverAt ∨ b.Resting

/-- A session that closes before its mission has ended sets no time. -/
theorem recoverAt_close_of_ne (a : Agent) {s : AgentSession} (h : s.stage ≠ .reporting)
    (reason : CloseReason) (now : Nat) : (a.close s reason now).state.recoverAt = a.recoverAt := by
  unfold close
  simp only [beq_eq_false_iff_ne.2 h, Bool.and_false, Bool.false_eq_true, if_false]

/-- A session that closes on a failed rover sets a time. -/
theorem setsTime_close (a : Agent) (s : AgentSession) (reason : CloseReason) (now : Nat) :
    a.SetsTime (a.close s reason now).state := by
  by_cases hfailed : (a.rover.failure?.isSome && s.stage == .reporting) = true
  · exact .inr ⟨rfl, (Bool.and_eq_true_iff.1 hfailed).1⟩
  · exact .inl (if_neg hfailed)

theorem recoverAt_onHello (a : Agent) (hello : Message) (now : Nat) :
    (a.onHello hello now).state.recoverAt = a.recoverAt := by
  have hwelcome : (a.welcome hello now).state.recoverAt = a.recoverAt := by
    unfold welcome
    split <;> rfl
  unfold onHello
  split
  · exact hwelcome
  · split
    · rfl
    · split
      · rfl
      · exact hwelcome

theorem recoverAt_onMission (a : Agent) (x : Message) (now : Nat) :
    (a.onMission x now).state.recoverAt = a.recoverAt := by
  unfold onMission
  split
  · rfl
  · split
    · rfl
    · split
      · -- However a fragment is answered, the time is left alone.
        simp only [onTransfer, onFragment]
        repeat' split
        all_goals rfl
      · rfl

theorem setsTime_onAck (a : Agent) (x : Message) (now : Nat) :
    a.SetsTime (a.onAck x now).state := by
  unfold onAck
  split
  · exact .inl rfl
  · rename_i s hs
    split
    · exact .inl rfl
    · split
      · exact .inl rfl
      · -- Only closing sets a time, and it does so for a rover that rests.
        rename_i c hc
        unfold onConfirmed
        simp only
        split
        · exact setsTime_close a { s with reports := c.queue } .confirmed now
        · exact .inl rfl

/-- A message sets a time of recovery by closing the session. -/
theorem setsTime_receive (a : Agent) (x : Message) (now : Nat) :
    a.SetsTime (a.receive x now).state := by
  unfold receive
  split
  · split
    · exact .inl (a.recoverAt_onHello x now)
    · exact .inl (a.recoverAt_onMission x now)
    · exact a.setsTime_onAck x now
    · exact .inl rfl
  · exact .inl rfl

/-- So does a poll of the reports, -/
theorem setsTime_pollReports (a : Agent) (now : Nat) : a.SetsTime (a.pollReports now).state := by
  cases hs : a.session with
  | none =>
      rw [pollReports_of_fresh (fun s hs' => absurd (hs.symm.trans hs') nofun)]
      exact .inl rfl
  | some s =>
      rcases (pollReports_cases hs now).2 with ⟨-, -, -, hstate⟩ | ⟨-, hstate⟩
      · rw [hstate]
        exact setsTime_close a _ _ now
      · rw [hstate]
        exact .inl rfl

/-- and one of the transfer does not, since the mission has not begun. -/
theorem recoverAt_pollTransfer (a : Agent) (now : Nat) :
    (a.pollTransfer now).state.recoverAt = a.recoverAt := by
  unfold pollTransfer
  split
  · rfl
  · split
    · rename_i s hs _ r hr
      split
      · rfl
      · split
        · exact a.recoverAt_close_of_ne (by rw [hr]; exact nofun) _ now
        · rfl
    · rfl

/-- What is left of a time of recovery after a poll was there before. -/
theorem setsTime_poll (a : Agent) (now : Nat) :
    (a.recover now).SetsTime (a.poll now).state := by
  have hkept : (((a.recover now).pollTransfer now).state.pollExecution now).recoverAt =
      (a.recover now).recoverAt :=
    (recoverAt_pollExecution _ now).trans ((a.recover now).recoverAt_pollTransfer now)
  rcases setsTime_pollReports (((a.recover now).pollTransfer now).state.pollExecution now) now with
    hsame | hresting
  · exact .inl (hsame.trans hkept)
  · exact .inr hresting

/-- A rover at rest is not stirred by messages: it declines every hello. -/
theorem Resting.receive (h : a.Resting) (x : Message) (now : Nat) :
    (a.receive x now).state = a := by
  rcases h with ⟨hs, hfailed⟩
  unfold Agent.receive
  split
  · split
    · simp only [onHello, hs, welcome, if_pos hfailed, decline]
      rw [← hs]
    · simp only [onMission, hs, Reaction.quiet]
    · simp only [onAck, hs, Reaction.quiet]
    · rfl
  · rfl

/-- It only waits for its recovery. -/
theorem Resting.poll (h : a.Resting) (now : Nat) : (a.poll now).state = a.recover now := by
  have hs : (a.recover now).session = none := (a.recover_eq now).1.trans h.1
  simp only [Agent.poll, pollTransfer, pollExecution, pollReports, hs, Reaction.quiet]

/-- As long as the time of recovery is there, the rover has not recovered. -/
theorem recover_eq_self (h : (a.recover now).recoverAt = some time) : a.recover now = a := by
  unfold recover at h ⊢
  split at h
  · rfl
  · split at h
    · rename_i hearly
      rw [if_pos hearly]
    · cases h

/-- After an input the rover rests, or a time of recovery was there before. A rover
    at rest stays at rest unless its fault is taken away from outside. -/
theorem resting_or_kept (a : Agent) (i : Input) (h : (a.react i).state.recoverAt = some time) :
    (a.react i).state.Resting ∨ a.recoverAt = some time ∧ (a.Resting → i = .clearFault) := by
  -- A rover at rest takes no mission, so no message changes it.
  by_cases hrest : a.Resting
  · cases i with
    | hear x now =>
        have hsame : (a.react (.hear x now)).state = a := hrest.receive x now
        rw [hsame]
        exact .inl hrest
    | wait now =>
        have hpoll : (a.react (.wait now)).state = a.recover now := hrest.poll now
        rw [hpoll] at h ⊢
        rw [recover_eq_self h]
        exact .inl hrest
    | inject fault => exact .inl ⟨hrest.1, by rw [Rover.failure?_eq_some rfl]; rfl⟩
    | clearFault => exact .inr ⟨h, fun _ => rfl⟩
  · have hkept : (a.react i).state.Resting ∨ a.recoverAt = some time := by
      cases i with
      | hear x now =>
          rcases a.setsTime_receive x now with hsame | hresting
          · exact .inr (hsame.symm.trans h)
          · exact .inl hresting
      | wait now =>
          rcases a.setsTime_poll now with hsame | hresting
          · have htime : (a.recover now).recoverAt = some time := hsame.symm.trans h
            rw [recover_eq_self htime] at htime
            exact .inr htime
          · exact .inl hresting
      | inject fault => exact .inr h
      | clearFault => exact .inr h
    exact hkept.imp_right (fun hsame => ⟨hsame, fun hr => absurd hr hrest⟩)

/-- A time of recovery has outlived its fault: it was there when the fault of the
    rover at rest was taken away from outside, and it has been there since. -/
def Overstays (a : Agent) (inputs : List Input) (time : Nat) : Prop :=
  ∃ before after, inputs = before ++ .clearFault :: after ∧ (a.run before).state.Resting ∧
    ∀ more, more <+: .clearFault :: after → (a.run (before ++ more)).state.recoverAt = some time

/-- It overstays as long as it is there. -/
theorem Overstays.concat {inputs : List Input} (h : a.Overstays inputs time) {i : Input}
    (hi : (a.run (inputs ++ [i])).state.recoverAt = some time) :
    a.Overstays (inputs ++ [i]) time := by
  rcases h with ⟨before, after, rfl, hresting, hall⟩
  refine ⟨before, after ++ [i], by simp, hresting, fun more hmore => ?_⟩
  rw [← List.cons_append, List.prefix_concat_iff] at hmore
  rcases hmore with rfl | hmore
  · rw [← List.append_assoc]
    exact hi
  · exact hall more hmore

/-- A rover with a time of recovery rests, or the time has outlived its fault. -/
theorem resting_or_overstays (id : Int) (timing : Timing) (rover : Rover) (inputs : List Input)
    (h : ((start id timing rover).run inputs).state.recoverAt = some time) :
    ((start id timing rover).run inputs).state.Resting ∨
      (start id timing rover).Overstays inputs time := by
  -- On the last input, as overstaying is about what has gone before.
  induction inputs using List.reverseRecOn with
  | nil => cases h
  | append_singleton inputs i ih =>
      have hrun := h
      rw [run_concat] at h ⊢
      rcases resting_or_kept _ i h with hresting | ⟨hkept, hclear⟩
      · exact .inl hresting
      · rcases ih hkept with hresting | hoverstays
        · -- The time was set for the fault that is taken away now.
          cases hclear hresting
          refine .inr ⟨inputs, [], rfl, hresting, fun more hmore => ?_⟩
          rcases List.prefix_cons_iff.1 hmore with rfl | ⟨more, rfl, hnil⟩
          · rw [List.append_nil]
            exact hkept
          · rw [List.prefix_nil.1 hnil]
            exact hrun
        · exact .inr (hoverstays.concat hrun)

/-- What becomes of a fault on a mission when the next tick is carried out. It is
    reported, with nothing before the report that has not been sent already, unless
    the rover recovers in that poll. If it does, it does so by mistake, for the time
    of recovery has outlived a fault that was taken away from outside; and the poll
    is that of a rover without a fault. -/
theorem faults_reported (id : Int) (timing : Timing) (rover : Rover) (inputs : List Input)
    {s : AgentSession} {e : Execution} {now : Nat}
    (hs : ((start id timing rover).run inputs).state.session = some s)
    (he : s.stage = .executing e)
    (hfault : ((start id timing rover).run inputs).state.rover.fault.isSome)
    (hdue : 0 < e.due ((start id timing rover).run inputs).state.rover now) :
    let a := ((start id timing rover).run inputs).state
    (∃ report, a.ReportsFault s now report) ∨
      ∃ time ≤ now, a.recoverAt = some time ∧ (start id timing rover).Overstays inputs time ∧
        a.poll now = { a.clearFault with recoverAt := none }.poll now := by
  intro a
  have ha : a.Regular := (regular_run (.start id timing rover) inputs).1
  by_cases hahead : Ahead now a.recoverAt
  · exact .inl (reportsFault ha hs he hfault hdue hahead)
  · unfold Ahead at hahead
    push Not at hahead
    rcases hahead with ⟨time, htime, hle⟩
    refine .inr ⟨time, hle, htime, ?_, ?_⟩
    · -- A rover at rest is in no session.
      rcases resting_or_overstays id timing rover inputs htime with hresting | hoverstays
      · cases hs.symm.trans hresting.1
      · exact hoverstays
    · have hcured : a.recover now = { a.clearFault with recoverAt := none } := by
        unfold recover
        rw [htime]
        exact if_neg (Nat.not_lt.2 hle)
      unfold poll
      rw [hcured]
      rfl

/-- An obstacle ends the first mission of a rover and is taken away before the rover
    has recovered; on its second mission the hardware fails. Each area has no end in
    one direction, so that the first step is one without a root. -/
def twoFaults : List Input :=
  let far : Single := ⟨0x7f800000⟩
  let area (id : Int) (x y : Single) : Mission := ⟨id, x, y, x, y, "scan", 60, 1, 0, 1⟩
  let hello (id : Int) : Message := { kind := .hello, sender := 0, receiver := 7, mission := id }
  let transfer (m : Mission) : Message :=
    { hello m.id with kind := .mission, seq := 2, payload := .mission m }
  let confirmed : Message := { hello 1 with kind := .ack, seq := 1, payload := .ack .complete }
  [.hear (hello 1) 0, .hear (transfer (area 1 far .zero)) 0, .inject .obstacle, .wait 1000,
    .hear confirmed 1001, .clearFault, .hear (hello 2) 5000,
    .hear (transfer (area 2 .zero far)) 5000, .inject .hardware]

/-- The rover is to recover from the obstacle at 6001. Polled just before that, it
    reports the failure of its hardware. -/
theorem faults_reported_in_time :
    let a := ((start 7 {} (.start {} .zero .zero .hundred none)).run twoFaults).state
    a.recoverAt = some 6001 ∧ ∃ s report, a.session = some s ∧ a.ReportsFault s 6000 report ∧
      report.fault = .hardware := by
  intro a
  have htime : a.recoverAt = some 6001 := by decide +kernel
  have hrover : a.rover.fault = some .hardware ∧ a.rover.scheduled = none := by decide +kernel
  have hready : 0 < a.due 6000 := by decide +kernel
  rcases exists_executing_of_due hready with ⟨s, e, hs, he, hdue⟩
  refine ⟨htime, s, ?_⟩
  rcases faults_reported 7 {} (.start {} .zero .zero .hundred none) twoFaults hs he
    (hrover.1 ▸ rfl) hdue with ⟨report, hreports⟩ | ⟨time, hle, hlate, -⟩
  · refine ⟨report, hs, hreports, ?_⟩
    rcases hreports.fault with hfault | ⟨sched, hsched, -⟩
    · exact Option.some.inj (hfault.symm.trans hrover.1)
    · cases hsched.symm.trans hrover.2
  · cases hlate.symm.trans htime
    exact absurd hle (by decide)

/-- Polled one millisecond later, it has lost its fault, and goes on as if there had
    been none. -/
theorem faults_reported_too_late :
    let a := ((start 7 {} (.start {} .zero .zero .hundred none)).run twoFaults).state
    a.rover.fault = some .hardware ∧ a.due 6001 = 1 ∧
      (a.poll 6001).messages.map Message.kind = [.progress] ∧
      (a.poll 6001).state.phase = .executing ∧ (a.poll 6001).state.rover.fault = none := by
  decide +kernel

end Agent

end RoverDispatch
