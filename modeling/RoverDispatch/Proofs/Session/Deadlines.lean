import RoverDispatch.Proofs.Session.Acknowledgements
import RoverDispatch.Proofs.Session.EventStreams

/-!
# Deadlines

A machine says exactly when it has to be polled next.

Both ends compute their deadline apart from what a poll does, so the two can
disagree in two ways. A deadline that is too late would let something be done
before it, and one that is too early would have a driver poll in vain, and
again at the same time, for ever. Neither happens. Before its deadline a poll
does nothing, and after a poll the deadline is in the future, provided that
every wait lasts for some time and no sum is past the largest time.

For the supervisor both are read off the list of outcomes of a poll. The agent
has several clocks at once: the transfer, the ticks of the mission, the report
in flight and the recovery of the rover. A poll goes through them one by one,
and sets each of them ahead or leaves it there; one that it need not look at,
since nothing runs by it at the stage of the session, is in no deadline.

## Main definitions

* `Ahead`: A time, if there is one, is in the future.
* `Supervisor.run`: What becomes of a supervisor.
* `Supervisor.Regular`: What holds of every supervisor with a given timing.

## Theorems

* `Supervisor.poll_of_ahead`, `Agent.poll_of_ahead`: Before the deadline a poll
  does nothing.
* `Supervisor.ahead_poll`, `Agent.ahead_poll`: After a poll the deadline is in
  the future.
* `Supervisor.regular_run`: Every supervisor is regular.
* `deadlines_exact`: Both, for all that can become of the two machines.
-/

namespace RoverDispatch

/-- A time, if there is one, is in the future. -/
def Ahead (now : Nat) (time? : Option Nat) : Prop := ∀ time, time? = some time → now < time

section Ahead

variable {now time : Nat} {a b : Option Nat}

theorem ahead_none (now : Nat) : Ahead now none := nofun

theorem ahead_some : Ahead now (some time) ↔ now < time :=
  ⟨fun h => h time rfl, by rintro h _ ⟨⟩; exact h⟩

/-- The earlier of two times is in the future when both are. -/
theorem ahead_earliest : Ahead now (earliest a b) ↔ Ahead now a ∧ Ahead now b := by
  cases a with
  | none => exact (and_iff_right (ahead_none now)).symm
  | some x =>
      cases b with
      | none => exact (and_iff_left (ahead_none now)).symm
      | some y => simp only [earliest, ahead_some, Nat.lt_min]

/-- A wait that lasts for some time ends in the future, unless its end is past the
    largest time. -/
theorem ahead_wait {wait : Nat} (h : 0 < wait) (fits : now + wait ≤ maxTime) :
    Ahead now (some (after now wait)) := by
  rw [after_eq fits]
  exact ahead_some.2 (Nat.lt_add_of_pos_right h)

end Ahead

/-! ### Supervisors -/

namespace Supervisor

variable {s s' : Supervisor} {t : Timing} {m : Message} {now : Nat} {r : SupervisorReaction}

/-- Before its deadline a poll does nothing. -/
theorem poll_of_ahead (h : Ahead now s.deadline?) : s.poll now = .quiet s := by
  -- Every other outcome of a poll is due.
  have hearly : ∀ {d}, s.phase.deadline? = some d → d ≤ now → False :=
    fun hd hdue => absurd (h _ hd) (Nat.not_lt.2 hdue)
  have hpolls := s.polls now
  generalize s.poll now = r at hpolls ⊢
  cases hpolls with
  | quiet early => rfl
  | greets phase due more => exact (hearly (by rw [phase]; rfl) due).elim
  | unresponsive phase due spent => exact (hearly (by rw [phase]; rfl) due).elim
  | resends phase due more => exact (hearly (by rw [phase]; rfl) due).elim
  | unconfirmed phase due spent => exact (hearly (by rw [phase]; rfl) due).elim
  | silent phase due => exact (hearly (by rw [phase]; rfl) due).elim
  | farewells phase left due =>
      refine (hearly ?_ due).elim
      rw [phase, Supervision.deadline?, if_neg left]

/-- After a poll the deadline is in the future. -/
theorem ahead_poll (htimeout : 0 < s.timing.timeout) (hgap : 0 < s.timing.finalAckGap)
    (hfits : now + s.timing.timeout ≤ maxTime) (hfits' : now + s.timing.finalAckGap ≤ maxTime) :
    Ahead now (s.poll now).state.deadline? := by
  have hpolls := s.polls now
  generalize s.poll now = r at hpolls ⊢
  cases hpolls with
  | quiet early => exact early
  | greets phase due more => exact ahead_wait htimeout hfits
  | unresponsive phase due spent => exact ahead_none now
  | resends phase due more => exact ahead_wait htimeout hfits
  | unconfirmed phase due spent => exact ahead_none now
  | silent phase due => exact ahead_none now
  -- After the last final acknowledgement there is no clock any more.
  | farewells phase left due =>
      simp only [repeatFarewell, deadline?, Supervision.deadline?]
      split
      · exact ahead_none now
      · exact ahead_wait hgap hfits'

/-- What holds of every supervisor with a given timing: what is left of the
    farewell is less than the whole of it. -/
structure Regular (t : Timing) (s : Supervisor) : Prop where
  timing : s.timing = t
  farewell : ∀ o f, s.phase = .ended o f → f.left ≤ t.finalAckRepeats - 1

theorem Regular.of_going (h : s.Regular t) (timing : s'.timing = s.timing)
    (phase : s'.outcome? = none) : s'.Regular t := by
  refine ⟨timing.trans h.timing, fun o f hf => ?_⟩
  rw [outcome?, hf] at phase
  cases phase

theorem Regular.of_same (h : s.Regular t) (timing : s'.timing = s.timing)
    (phase : s'.phase = s.phase) : s'.Regular t :=
  ⟨timing.trans h.timing, phase.symm ▸ h.farewell⟩

theorem Regular.fail (h : s.Regular t) (reason : FailureReason) :
    (s.fail reason).state.Regular t := by
  refine ⟨h.timing, ?_⟩
  rintro o f hf
  cases hf
  exact Nat.zero_le _

theorem Supervises.regular (hr : Supervises s m now r) (h : s.Regular t) : r.state.Regular t := by
  cases hr with
  | recovers known => exact h.of_same rfl rfl
  | progress new kind payload => exact h.of_going rfl rfl
  | ends new outcome =>
      refine ⟨h.timing, ?_⟩
      rintro o f hf
      cases hf
      rw [← h.timing]
  | malformed new progress outcome => exact h.of_same rfl rfl

theorem Receives.regular (hr : Receives s m now r) (h : s.Regular t) : r.state.Regular t := by
  have hheard : (s.heard now).Regular t := h.of_same rfl rfl
  cases hr with
  | foreign foreign => exact h
  | useless report => exact hheard
  | transfers phase kind available => exact h.of_going rfl rfl
  | declined phase kind unavailable => exact hheard.fail _
  | accepted phase kind complete => exact h.of_going rfl rfl
  | asked phase kind missing => exact h.of_going rfl rfl
  | acceptedReport phase report supervises => exact supervises.regular (h.of_going rfl rfl)
  | reported phase report supervises => exact supervises.regular hheard
  | acknowledged phase report => exact hheard

theorem Polls.regular (hr : Polls s now r) (h : s.Regular t) : r.state.Regular t := by
  cases hr with
  | quiet early => exact h
  | greets phase due more => exact h.of_going rfl rfl
  | unresponsive phase due spent => exact h.fail _
  | resends phase due more => exact h.of_going rfl rfl
  | unconfirmed phase due spent => exact h.fail _
  | silent phase due => exact h.fail _
  | farewells phase left due =>
      refine ⟨h.timing, ?_⟩
      rintro o f hf
      cases hf
      exact Nat.le_trans (Nat.sub_le _ _) (h.farewell _ _ phase)

theorem Regular.react (h : s.Regular t) (i : Input) : (s.react i).state.Regular t := by
  cases i with
  | greet now =>
      have hgreets := s.greets now
      simp only [Supervisor.react]
      generalize s.greet now = r at hgreets ⊢
      cases hgreets with
      | quiet phase => exact h
      | opens phase => exact h.of_going rfl rfl
  | hear m now => exact (s.receives m now).regular h
  | wait now => exact (s.polls now).regular h
  | sent now =>
      have htransmits := s.transmits now
      simp only [Supervisor.react]
      generalize s.transmitted now = s' at htransmits ⊢
      cases htransmits with
      | quiet phase => exact h
      | waits phase => exact h.of_going rfl rfl

theorem Regular.prepare {rover : Int} {mission : Mission}
    (hs : prepare t rover mission = .ok s) : s.Regular t := by
  rcases of_prepare hs with ⟨transfer, -, rfl⟩
  exact ⟨rfl, nofun⟩

/-- What becomes of a supervisor through a number of inputs. -/
def run (s : Supervisor) (inputs : List Input) : Supervisor :=
  inputs.foldl (fun s i => (s.react i).state) s

/-- Every supervisor is regular after any inputs. -/
theorem regular_run (h : s.Regular t) (inputs : List Input) : (s.run inputs).Regular t := by
  induction inputs generalizing s with
  | nil => exact h
  | cons i inputs ih => exact ih (h.react i)

end Supervisor

/-! ### Report queues -/

namespace ReportQueue

variable {q : ReportQueue} {now : Nat}

/-- Before its deadline a queue does nothing. -/
theorem poll_of_ahead (h : Ahead now q.deadline?) : q.poll now = ⟨q, [], none⟩ := by
  rw [deadline?] at h
  have hpolls := q.polls now
  -- A report in flight is not due, and none can be sent without one.
  have hflight : ∀ f, q.inFlight = some f → now < after f.sentAt q.timeout := by
    intro f hf
    rw [hf] at h
    exact ahead_some.1 h
  have hwaiting : q.inFlight = none → q.waiting = [] := by
    intro hf
    by_contra hne
    simp only [hf, if_neg hne] at h
    exact absurd (ahead_some.1 h) (Nat.not_lt_zero _)
  generalize q.poll now = d at hpolls ⊢
  cases hpolls with
  | idle flight waiting => rfl
  | waits f flight early => rfl
  | repeats f flight due more => exact absurd (hflight f flight) (Nat.not_lt.2 due)
  | givesUp f flight due spent last => exact absurd (hflight f flight) (Nat.not_lt.2 due)
  | sends report waiting flight first => cases first.symm.trans (hwaiting flight)
  | replaces f report waiting flight due spent going first =>
      exact absurd (hflight f flight) (Nat.not_lt.2 due)

/-- After a poll the deadline is in the future, unless a report that was given
    up was the last. -/
theorem ahead_poll (htimeout : 0 < q.timeout) (hfits : now + q.timeout ≤ maxTime)
    (hgiven : ∀ given, (q.poll now).abandoned = some given → given.terminal = false) :
    Ahead now (q.poll now).queue.deadline? := by
  have hpolls := q.polls now
  generalize q.poll now = d at hpolls hgiven ⊢
  cases hpolls with
  -- With nothing in flight and nothing waiting there is nothing to poll for.
  | idle flight waiting =>
      simp only [deadline?, flight, waiting, if_true]
      exact ahead_none now
  | waits f flight early =>
      simp only [deadline?, flight]
      exact ahead_some.2 early
  | repeats f flight due more => exact ahead_wait htimeout hfits
  | givesUp f flight due spent last =>
      -- A report that is given up makes room for the next, so here none was waiting.
      have hgoing : f.terminal = false := hgiven _ rfl
      have hwaiting : q.waiting = [] :=
        last.resolve_left (fun hterminal => nomatch hgoing.symm.trans hterminal)
      simp only [deadline?, hwaiting, if_true]
      exact ahead_none now
  | sends report waiting flight first => exact ahead_wait htimeout hfits
  | replaces f report waiting flight due spent going first => exact ahead_wait htimeout hfits

end ReportQueue

/-! ### Agents -/

/-- A session before its mission is receiving it. -/
theorem AgentSession.exists_receiving {s : AgentSession} (h : s.isBusy = false) :
    ∃ r, s.stage = .receiving r := by
  rw [isBusy] at h
  cases hs : s.stage with
  | receiving r => exact ⟨r, rfl⟩
  | executing e =>
      rw [hs] at h
      cases h
  | reporting =>
      rw [hs] at h
      cases h

namespace Agent

variable {a : Agent} {s : AgentSession} {now : Nat}

/-- Before its time the rover does not recover. -/
theorem recover_of_ahead (h : Ahead now a.recoverAt) : a.recover now = a := by
  rw [recover]
  split
  · rfl
  · rename_i time htime
    exact if_pos (h time htime)

/-- Recovery leaves no time of recovery, or one in the future. -/
theorem ahead_recover (a : Agent) (now : Nat) : Ahead now (a.recover now).recoverAt := by
  rw [recover]
  split
  · rename_i hnone
    rw [hnone]
    exact ahead_none now
  · rename_i time htime
    split
    · rename_i hearly
      rw [htime]
      exact ahead_some.2 hearly
    · exact ahead_none now

/-- What the passing of time makes of a transfer. -/
inductive PollsTransfer (a : Agent) (s : AgentSession) (r : Reception) (now : Nat) :
    AgentReaction → Prop where
  /-- The coordinator has been heard of lately. -/
  | waits (early : now < after r.lastInbound a.timing.timeout) : PollsTransfer a s r now (.quiet a)
  /-- The transfer is given up. -/
  | givesUp (due : after r.lastInbound a.timing.timeout ≤ now)
      (spent : a.timing.maxAttempts ≤ r.nudges) :
      PollsTransfer a s r now (a.close s .transferAbandoned now)
  /-- The coordinator is asked for what is missing. -/
  | asks {r' : Reception} {messages : List Message}
      (due : after r.lastInbound a.timing.timeout ≤ now) (more : r.nudges < a.timing.maxAttempts)
      (lastInbound : r'.lastInbound = now) (nudges : r'.nudges = r.nudges + 1) :
      PollsTransfer a s r now { state := a.within { s with stage := .receiving r' }, messages }

/-- The outcomes of a transfer are those listed. -/
theorem pollsTransfer {r : Reception} (hs : a.session = some s) (hr : s.stage = .receiving r)
    (now : Nat) : PollsTransfer a s r now (a.pollTransfer now) := by
  simp only [pollTransfer, hs, hr]
  split
  · rename_i hearly
    exact .waits hearly
  · rename_i hdue
    split
    · rename_i hspent
      exact .givesUp (Nat.le_of_not_lt hdue) hspent
    · rename_i hmore
      rw [Reception.nudge]
      split <;> exact .asks (Nat.le_of_not_lt hdue) (Nat.lt_of_not_le hmore) rfl rfl

/-- The ticks that are due are carried out on a mission under way. -/
theorem pollExecution_executing {e : Execution} (hs : a.session = some s)
    (he : s.stage = .executing e) (now : Nat) :
    let d := Drive.ticks ⟨e, a.rover, s.reports, false⟩ (now / 1000 : Nat) (e.due a.rover now)
    a.pollExecution now =
      { a with
        rover := d.rover
        session := some { s with
          stage := if d.ended then .reporting else .executing d.execution
          reports := d.reports } } := by
  simp only [pollExecution, hs, he]

/-- Nothing is carried out at any other stage. -/
theorem pollExecution_of_ne (hs : a.session = some s) (h : ∀ e, s.stage ≠ .executing e)
    (now : Nat) : a.pollExecution now = a := by
  simp only [pollExecution, hs]

/-- Before the next tick nothing is carried out either. -/
theorem pollExecution_of_ahead (hs : a.session = some s)
    (h : ∀ e, s.stage = .executing e → now < e.lastTick + a.rover.simulation.tick) :
    a.pollExecution now = a := by
  by_cases hexecuting : ∃ e, s.stage = .executing e
  · rcases hexecuting with ⟨e, he⟩
    have hearly := h e he
    have hdue : e.due a.rover now = 0 := by
      rw [Execution.due, Rover.tickLength]
      exact Nat.div_eq_of_lt (by omega)
    rw [pollExecution_executing hs he]
    simp only [hdue, Drive.ticks, Bool.false_eq_true, if_false, ← he, ← hs]
  · exact pollExecution_of_ne hs (fun e he => hexecuting ⟨e, he⟩) now

/-- Before its deadline a poll does nothing. -/
theorem poll_of_ahead (ha : a.Regular) (h : Ahead now a.deadline?) : a.poll now = .quiet a := by
  rw [deadline?, ahead_earliest] at h
  rcases h with ⟨hsession, hrecover⟩
  cases hbusy : a.isBusy with
  | false =>
      rw [poll_of_not_busy ha.silent hbusy, recover_of_ahead hrecover]
      cases hs : a.session with
      | none => simp only [pollTransfer, hs]
      | some s =>
          rw [isBusy, hs] at hbusy
          rcases AgentSession.exists_receiving hbusy with ⟨r, hr⟩
          rw [hs, Option.bind_some, AgentSession.deadline?, hr] at hsession
          have hearly := ahead_some.1 hsession
          have hpolls := pollsTransfer hs hr now
          generalize a.pollTransfer now = x at hpolls ⊢
          cases hpolls with
          | waits early => rfl
          | givesUp due spent => exact absurd hearly (Nat.not_lt.2 due)
          | asks due more lastInbound nudges => exact absurd hearly (Nat.not_lt.2 due)
  | true =>
      rw [poll_of_busy hbusy, recover_of_ahead hrecover]
      cases hs : a.session with
      | none =>
          rw [isBusy, hs] at hbusy
          cases hbusy
      | some s =>
          -- The next tick and the report in flight are both in the future.
          have hclocks : (∀ e, s.stage = .executing e →
              now < e.lastTick + a.rover.simulation.tick) ∧ Ahead now s.reports.deadline? := by
            rw [isBusy, hs] at hbusy
            rw [hs, Option.bind_some, AgentSession.deadline?] at hsession
            cases hr : s.stage with
            | receiving r => cases (AgentSession.isBusy_eq hr).symm.trans hbusy
            | executing e =>
                rw [hr, ahead_earliest] at hsession
                refine ⟨?_, hsession.2⟩
                rintro e' ⟨⟩
                exact ahead_some.1 hsession.1
            | reporting =>
                rw [hr] at hsession
                exact ⟨fun e he => Stage.noConfusion he, hsession⟩
          rw [pollExecution_of_ahead hs hclocks.1]
          simp only [pollReports, hs, ReportQueue.poll_of_ahead hclocks.2, within]
          rw [← hs]
          rfl

/-- After the ticks that were due the next one is ahead. -/
theorem ahead_pollExecution (htick : 0 < a.rover.simulation.tick) {e : Execution}
    (hs : (a.pollExecution now).session = some s) (he : s.stage = .executing e) :
    now < e.lastTick + a.rover.simulation.tick := by
  cases ht : a.session with
  | none =>
      simp only [pollExecution, ht] at hs
      cases hs
  | some t =>
      by_cases hexecuting : ∃ e₀, t.stage = .executing e₀
      · rcases hexecuting with ⟨e₀, he₀⟩
        rw [pollExecution_executing ht he₀] at hs
        have hlast := Drive.lastTick_ticks ⟨e₀, a.rover, t.reports, false⟩ (now / 1000 : Nat)
          (e₀.due a.rover now)
        generalize Drive.ticks _ _ _ = d at hs hlast
        cases hs
        -- A mission that has ended executes nothing any more.
        cases hended : d.ended with
        | true =>
            simp only [hended, if_true, reduceCtorEq] at he
        | false =>
            simp only [hended, Bool.false_eq_true, if_false, Stage.executing.injEq] at he
            have hlength : a.rover.tickLength = a.rover.simulation.tick := Nat.max_eq_right htick
            have hlast' : d.execution.lastTick = e₀.lastTick +
                (now - e₀.lastTick) / a.rover.simulation.tick * a.rover.simulation.tick := by
              rw [← hlength]
              exact hlast hended
            -- As many ticks as fit in have been carried out, and one more would not.
            have hfit := Nat.lt_mul_div_succ (now - e₀.lastTick) htick
            rw [Nat.mul_succ, Nat.mul_comm] at hfit
            rw [← he]
            omega
      · rw [pollExecution_of_ne ht (fun e₀ he₀ => hexecuting ⟨e₀, he₀⟩)] at hs
        cases ht.symm.trans hs
        exact absurd ⟨e, he⟩ hexecuting

theorem recoverAt_pollExecution (a : Agent) (now : Nat) :
    (a.pollExecution now).recoverAt = a.recoverAt := by
  rw [pollExecution]
  split
  · rfl
  · split <;> rfl

/-- A mission under way stays in its session. -/
theorem exists_pollExecution (hs : a.session = some s) (hbusy : s.isBusy = true) (now : Nat) :
    ∃ s', (a.pollExecution now).session = some s' ∧ s'.isBusy = true := by
  by_cases hexecuting : ∃ e, s.stage = .executing e
  · rcases hexecuting with ⟨e, he⟩
    rw [pollExecution_executing hs he]
    refine ⟨_, rfl, ?_⟩
    generalize Drive.ticks _ _ _ = d
    simp only [AgentSession.isBusy]
    cases d.ended <;> rfl
  · rw [pollExecution_of_ne hs (fun e he => hexecuting ⟨e, he⟩)]
    exact ⟨s, hs, hbusy⟩

/-- After a poll of the reports of a rover with a mission, its clocks are ahead. -/
theorem ahead_pollReports (hs : a.session = some s) (hbusy : s.isBusy = true)
    (htimeout : 0 < s.reports.timeout) (hrecovery : 0 < a.rover.simulation.recovery)
    (hfits : now + s.reports.timeout ≤ maxTime)
    (hfits' : now + a.rover.simulation.recovery ≤ maxTime) (hrecover : Ahead now a.recoverAt)
    (htick : ∀ e, s.stage = .executing e → now < e.lastTick + a.rover.simulation.tick) :
    Ahead now (a.pollReports now).state.deadline? := by
  -- A session that closes leaves only the clock of the body, which it may have set.
  rcases (pollReports_cases hs now).2 with ⟨-, -, -, hstate⟩ | ⟨hgoing, hstate⟩
  · rw [hstate, deadline?, ahead_earliest]
    refine ⟨ahead_none now, ?_⟩
    simp only [close]
    split
    · exact ahead_wait hrecovery hfits'
    · exact hrecover
  · have hreports := ReportQueue.ahead_poll htimeout hfits hgoing
    rw [hstate, deadline?, ahead_earliest]
    refine ⟨?_, hrecover⟩
    simp only [within, Option.bind_some, AgentSession.deadline?]
    -- The clocks of the session: its reports, and the ticks if it is executing.
    cases hr : s.stage with
    | receiving r => cases (AgentSession.isBusy_eq hr).symm.trans hbusy
    | executing e => exact ahead_earliest.2 ⟨ahead_some.2 (htick e hr), hreports⟩
    | reporting => exact hreports

/-- After a poll of the transfer its clocks are ahead. -/
theorem ahead_pollTransfer (hs : a.session = some s) {r : Reception} (hr : s.stage = .receiving r)
    (htimeout : 0 < a.timing.timeout) (hfits : now + a.timing.timeout ≤ maxTime)
    (hrecover : Ahead now a.recoverAt) : Ahead now (a.pollTransfer now).state.deadline? := by
  have hpolls := pollsTransfer hs hr now
  generalize a.pollTransfer now = x at hpolls ⊢
  cases hpolls with
  | waits early =>
      rw [Reaction.quiet, deadline?, ahead_earliest, hs]
      simp only [Option.bind_some, AgentSession.deadline?, hr]
      exact ⟨ahead_some.2 early, hrecover⟩
  | givesUp due spent =>
      -- A rover that is receiving has not failed on a mission.
      have hkept : (a.close s .transferAbandoned now).state.recoverAt = a.recoverAt := by
        simp only [close, hr]
        rw [show (Stage.receiving r == Stage.reporting) = false from rfl, Bool.and_false]
        rfl
      rw [deadline?, hkept]
      exact hrecover
  | asks due more lastInbound nudges =>
      simp only [deadline?, ahead_earliest, within, Option.bind_some, AgentSession.deadline?,
        lastInbound]
      exact ⟨ahead_wait htimeout hfits, hrecover⟩

/-- After the ticks and the reports of a rover with a mission have been polled, its
    clocks are ahead. -/
theorem ahead_pollMission (ha : a.Regular) (hbusy : a.isBusy = true)
    (htimeout : 0 < a.timing.timeout) (htick : 0 < a.rover.simulation.tick)
    (hrecovery : 0 < a.rover.simulation.recovery) (hfits : now + a.timing.timeout ≤ maxTime)
    (hfits' : now + a.rover.simulation.recovery ≤ maxTime) (hrecover : Ahead now a.recoverAt) :
    Ahead now ((a.pollExecution now).pollReports now).state.deadline? := by
  cases hs : a.session with
  | none =>
      rw [isBusy, hs] at hbusy
      cases hbusy
  | some s =>
      rw [isBusy, hs] at hbusy
      have hexecution := proceeds_pollExecution ha now
      have hsimulation : (a.pollExecution now).rover.simulation = a.rover.simulation :=
        hexecution.simulation
      have htiming : (a.pollExecution now).timing = a.timing := hexecution.timing
      rcases exists_pollExecution hs hbusy now with ⟨s', hs', hbusy'⟩
      have hreports : s'.reports.timeout = a.timing.timeout :=
        (hexecution.regular s' hs').reports.timeout.trans (congrArg Timing.timeout htiming)
      rw [← hreports] at htimeout hfits
      rw [← hsimulation] at hrecovery hfits'
      refine ahead_pollReports hs' hbusy' htimeout hrecovery hfits hfits' ?_ (fun e he => ?_)
      · rw [recoverAt_pollExecution]
        exact hrecover
      · rw [hsimulation]
        exact ahead_pollExecution htick hs' he

/-- After a poll the deadline is in the future. -/
theorem ahead_poll (ha : a.Regular) (htimeout : 0 < a.timing.timeout)
    (htick : 0 < a.rover.simulation.tick) (hrecovery : 0 < a.rover.simulation.recovery)
    (hfits : now + a.timing.timeout ≤ maxTime)
    (hfits' : now + a.rover.simulation.recovery ≤ maxTime) :
    Ahead now (a.poll now).state.deadline? := by
  have hrecover := proceeds_recover ha now
  have htiming : (a.recover now).timing = a.timing := hrecover.timing
  have hsimulation : (a.recover now).rover.simulation = a.rover.simulation := hrecover.simulation
  have hahead := a.ahead_recover now
  rw [← htiming] at htimeout hfits
  rw [← hsimulation] at htick hrecovery hfits'
  have hsame := isBusy_recover a now
  cases hbusy : a.isBusy with
  | false =>
      rw [poll_of_not_busy ha.silent hbusy]
      rw [hbusy] at hsame
      cases hs : (a.recover now).session with
      | none =>
          simp only [pollTransfer, hs, Reaction.quiet, deadline?, Option.bind_none, earliest]
          exact hahead
      | some s =>
          rw [isBusy, hs] at hsame
          rcases AgentSession.exists_receiving hsame with ⟨r, hr⟩
          exact ahead_pollTransfer hs hr htimeout hfits hahead
  | true =>
      rw [poll_of_busy hbusy]
      exact ahead_pollMission hrecover.regular (hsame.trans hbusy) htimeout htick hrecovery hfits
        hfits' hahead

end Agent

/-- Both machines say exactly when they have to be polled, whatever has happened to
    them. As long as the deadline is in the future, or there is none, a poll says
    nothing and changes nothing; and after a poll the deadline is in the future, or
    there is none, if all waits last for some time and no sum is past the largest
    time. -/
theorem deadlines_exact {timing : Timing} {rover : Int} {mission : Mission} {s₀ : Supervisor}
    (hs : Supervisor.prepare timing rover mission = .ok s₀) (turns : List Supervisor.Input)
    (id : Int) (agentTiming : Timing) (body : Rover) (inputs : List Agent.Input) (now : Nat) :
    let s := s₀.run turns
    let a := ((Agent.start id agentTiming body).run inputs).state
    (Ahead now s.deadline? → s.poll now = .quiet s) ∧
    (0 < timing.timeout → 0 < timing.finalAckGap →
      now + timing.timeout ≤ maxTime → now + timing.finalAckGap ≤ maxTime →
      Ahead now (s.poll now).state.deadline?) ∧
    (Ahead now a.deadline? → a.poll now = .quiet a) ∧
    (0 < agentTiming.timeout → 0 < body.simulation.tick → 0 < body.simulation.recovery →
      now + agentTiming.timeout ≤ maxTime → now + body.simulation.recovery ≤ maxTime →
      Ahead now (a.poll now).state.deadline?) := by
  intro s a
  have hsound : s.Regular timing := Supervisor.regular_run (.prepare hs) turns
  rcases Agent.regular_run (.start id agentTiming body) inputs with ⟨ha, htiming, hsimulation⟩
  -- The waits are those the machines were made with, whatever has happened since.
  refine ⟨Supervisor.poll_of_ahead, fun htimeout hgap hfits hfits' => ?_, Agent.poll_of_ahead ha,
    fun htimeout htick hrecovery hfits hfits' => ?_⟩
  · rw [← hsound.timing] at htimeout hgap hfits hfits'
    exact Supervisor.ahead_poll htimeout hgap hfits hfits'
  · rw [← show a.timing = agentTiming from htiming] at htimeout hfits
    rw [← show a.rover.simulation = body.simulation from hsimulation] at htick hrecovery hfits'
    exact Agent.ahead_poll ha htimeout htick hrecovery hfits hfits'

/-- A supervisor that has greeted waits for an answer, and a rover with a mission for
    its first tick; a poll comes just before and, late, just after. -/
theorem deadlines_exact_greeted :
    let m : Mission := ⟨1, .zero, .zero, .zero, .zero, "scan", 60, 2, 0, 1⟩
    let hello : Message := { kind := .hello, sender := 0, receiver := 7, mission := 1 }
    let inputs : List Agent.Input :=
      [.hear hello 0, .hear { hello with kind := .mission, seq := 2, payload := .mission m } 1]
    let a := ((Agent.start 7 {} (.start {} .zero .zero .hundred none)).run inputs).state
    ∃ s₀, Supervisor.prepare {} 7 m = .ok s₀ ∧
      let s := s₀.run [.greet 0]
      s.deadline? = some 5000 ∧ s.poll 4999 = .quiet s ∧
        Ahead 5000 (s.poll 5000).state.deadline? ∧
      a.deadline? = some 1001 ∧ a.poll 1000 = .quiet a ∧
        Ahead 5000 (a.poll 5000).state.deadline? := by
  intro m hello inputs a
  have hs : ∃ s₀, Supervisor.prepare {} 7 m = .ok s₀ ∧ (s₀.run [.greet 0]).deadline? = some 5000 :=
    Supervisor.exists_prepare_of_check (by decide +kernel)
  rcases hs with ⟨s₀, hs, hgreeted⟩
  have hstarted : a.deadline? = some 1001 := by decide +kernel
  have hexact := deadlines_exact hs [.greet 0] 7 {} (.start {} .zero .zero .hundred none) inputs
  refine ⟨s₀, hs, hgreeted, (hexact 4999).1 ?_, (hexact 5000).2.1 ?_ ?_ ?_ ?_, hstarted,
    (hexact 1000).2.2.1 ?_, (hexact 5000).2.2.2 ?_ ?_ ?_ ?_ ?_⟩
  · exact hgreeted ▸ ahead_some.2 (by decide)
  · decide
  · decide
  · decide
  · decide
  · exact hstarted ▸ ahead_some.2 (by decide)
  · decide
  · decide
  · decide
  · decide
  · decide

end RoverDispatch
