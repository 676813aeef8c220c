import RoverDispatch.Proofs.Session.Deadlines

/-!
# Patience

Nobody waits for ever.

Both ends are polled at their own deadlines while nothing is heard from the
other. Each such poll uses something up: a retry, an attempt to send a report,
a question out of silence, one of the final acknowledgements, or the time of
recovery of the rover. How much of all this is left is a number, the patience
of the machine. It decreases with every poll until the machine is at rest, so
it bounds the number of polls from any state, and not only from the first one.

The patience of a rover that reports is that of its queue. A report that waits
behind the one in flight will be sent as often as its kind allows, so it counts
for all its attempts; as one report waits at most, and the last one of all is
behind all the others, the sum is bounded by the attempts of one report of each
kind.

## Main definitions

* `polledAt`: A machine is polled at its deadline.
* `Supervisor.await`, `Agent.await`: The two machines are.
* `Supervisor.patience`, `ReportQueue.patience`, `Agent.patience`: What is left
  to be done without an answer.

## Theorems

* `exists_iterate_le`: What decreases bounds the number of steps.
* `Supervisor.patience_await`, `Agent.patience_await`: Every poll uses
  something up.
* `Supervisor.Regular.patience_le`, `Agent.Regular.patience_le`: The patience is
  bounded by the limits that were agreed on.
* `waits_bounded`: Every wait is bounded.
-/

namespace RoverDispatch

/-- What decreases with every step until something is reached bounds the number of
    steps to it. -/
theorem exists_iterate_le {α : Type} (f : α → α) (P goal : α → Prop) (μ : α → Nat)
    (step : ∀ x, P x → ¬ goal x → P (f x) ∧ μ (f x) < μ x) {x : α} (hx : P x) :
    ∃ n ≤ μ x, goal (f^[n] x) := by
  induction hn : μ x using Nat.strong_induction_on generalizing x with
  | _ n ih =>
      by_cases hgoal : goal x
      · exact ⟨0, Nat.zero_le _, hgoal⟩
      · rcases step x hx hgoal with ⟨hnext, hless⟩
        rcases ih _ (hn ▸ hless) hnext rfl with ⟨k, hk, hreached⟩
        exact ⟨k + 1, by omega, hreached⟩

/-- A machine is polled at its deadline, or at once if that has passed. -/
def polledAt {σ : Type} (deadline? : σ → Option Nat) (poll : σ → Nat → σ) (p : Nat × σ) :
    Nat × σ :=
  let now := max p.1 ((deadline? p.2).getD p.1)
  (now, poll p.2 now)

/-- A deadline at which a machine is polled is not in the future. -/
theorem not_ahead_max {now : Nat} {time? : Option Nat} (h : time?.isSome) :
    ¬ Ahead (max now (time?.getD now)) time? := by
  rcases Option.isSome_iff_exists.1 h with ⟨time, rfl⟩
  exact fun hahead => Nat.not_lt.2 (Nat.le_max_right now time) (ahead_some.1 hahead)

/-! ### Supervisors -/

namespace Supervisor

variable {s : Supervisor} {t : Timing} {now : Nat}

/-- A supervisor is polled at its deadline. -/
def await : Nat × Supervisor → Nat × Supervisor :=
  polledAt deadline? (fun s now => (s.poll now).state)

/-- What is left to be done without an answer: retries, or final
    acknowledgements. -/
def patience (s : Supervisor) : Nat :=
  match s.phase with
  | .awaitingResponse retries _ => max 1 (s.timing.maxAttempts - retries)
  | .awaitingAck retries _ => max 1 (s.timing.maxAttempts - retries)
  | .watching _ => 1
  | .ended _ farewell => farewell.left
  | _ => 0

/-- The session has been opened, and is not just being transferred. -/
def IsWaiting (s : Supervisor) : Prop :=
  s.phase ≠ .idle ∧ ∀ retries, s.phase ≠ .transmitting retries

/-- Whatever has a deadline waits for it, and so does what has ended. -/
theorem isWaiting_of (h : s.deadline?.isSome = true ∨ s.isTerminal = true) : s.IsWaiting := by
  refine ⟨fun hidle => ?_, fun retries htransmitting => ?_⟩
  · rw [deadline?, isTerminal, outcome?, hidle] at h
    exact h.elim Bool.false_ne_true Bool.false_ne_true
  · rw [deadline?, isTerminal, outcome?, htransmitting] at h
    exact h.elim Bool.false_ne_true Bool.false_ne_true

theorem isSome_deadline? (h : s.IsWaiting) (hopen : s.isFinished = false) :
    s.deadline?.isSome := by
  rcases h with ⟨hidle, htransmitting⟩
  rw [deadline?]
  cases hphase : s.phase with
  | idle => exact absurd hphase hidle
  | awaitingResponse retries deadline => rfl
  | transmitting retries => exact absurd hphase (htransmitting retries)
  | awaitingAck retries deadline => rfl
  | watching deadline => rfl
  | ended outcome farewell =>
      rw [isFinished, hphase] at hopen
      rw [Supervision.deadline?, if_neg (of_decide_eq_false hopen)]
      rfl

/-- Every poll that is due uses something up. -/
theorem patience_poll (hdue : ¬ Ahead now s.deadline?) :
    (s.poll now).state.IsWaiting ∧ (s.poll now).state.patience < s.patience := by
  have hpolls := s.polls now
  generalize s.poll now = r at hpolls ⊢
  cases hpolls with
  | quiet early => exact absurd early hdue
  -- A repetition leaves one attempt fewer, and giving up leaves nothing to wait for.
  | greets phase due more =>
      refine ⟨isWaiting_of (.inl rfl), ?_⟩
      simp only [patience, phase]
      omega
  | unresponsive phase due spent =>
      refine ⟨isWaiting_of (.inr rfl), ?_⟩
      simp only [patience, phase, fail, Farewell.none]
      omega
  | resends phase due more =>
      refine ⟨isWaiting_of (.inl rfl), ?_⟩
      simp only [patience, phase]
      omega
  | unconfirmed phase due spent =>
      refine ⟨isWaiting_of (.inr rfl), ?_⟩
      simp only [patience, phase, fail, Farewell.none]
      omega
  | silent phase due =>
      refine ⟨isWaiting_of (.inr rfl), ?_⟩
      simp only [patience, phase, fail, Farewell.none]
      omega
  -- Of the farewell, one acknowledgement fewer is left.
  | farewells phase left due =>
      refine ⟨isWaiting_of (.inr rfl), ?_⟩
      simp only [patience, phase, repeatFarewell]
      omega

/-- So does waiting for the deadline. -/
theorem patience_await (h : s.IsWaiting) (hopen : s.isFinished = false) (now : Nat) :
    (await (now, s)).2.IsWaiting ∧ (await (now, s)).2.patience < s.patience :=
  patience_poll (not_ahead_max (isSome_deadline? h hopen))

/-- The patience of a supervisor is bounded by its limits. -/
theorem Regular.patience_le (h : s.Regular t) :
    s.patience ≤ max 1 (max t.maxAttempts t.finalAckRepeats) := by
  rw [patience]
  cases hphase : s.phase with
  | idle => exact Nat.zero_le _
  | awaitingResponse retries deadline =>
      simp only [h.timing]
      omega
  | transmitting retries => exact Nat.zero_le _
  | awaitingAck retries deadline =>
      simp only [h.timing]
      omega
  | watching deadline => exact Nat.le_max_left _ _
  -- At most the whole farewell is left to say.
  | ended outcome farewell =>
      have hleft := h.farewell _ _ hphase
      simp only
      omega

end Supervisor

/-! ### Report queues -/

namespace ReportQueue

variable {q : ReportQueue} {t : Timing} {now : Nat}

/-- How often reports are still to be sent, until they are given up. -/
def patience (q : ReportQueue) : Nat :=
  (match q.inFlight with
    | some f => q.sendLimit f.terminal - f.attempts
    | none => 0) + 1 + (q.waiting.map (fun r => q.sendLimit r.isTerminal)).sum

/-- A report that has just been sent has used up one of its attempts. -/
theorem patience_sending {report : Report} {waiting : List Report}
    (hw : q.waiting = report :: waiting) (now : Nat) :
    (q.sending report waiting now).patience =
      (q.waiting.map (fun r => q.sendLimit r.isTerminal)).sum := by
  have hpos := q.sendLimit_pos report.isTerminal
  rw [hw, List.map_cons, List.sum_cons]
  change q.sendLimit report.isTerminal - 1 + 1 +
    (waiting.map (fun r => q.sendLimit r.isTerminal)).sum = _
  omega

/-- No more attempts are made than were agreed on. -/
theorem Regular.sendLimit_le (h : q.Regular t) (terminal : Bool) :
    q.sendLimit terminal ≤
      if terminal = true then t.terminalRetries + 1 else t.progressRetries + 1 := by
  rw [sendLimit, attemptLimit, h.progressAttempts, h.terminalAttempts]
  cases terminal with
  | false => exact Nat.max_le.2 ⟨Nat.succ_pos _, attemptsFor_le _⟩
  | true => exact Nat.max_le.2 ⟨Nat.succ_pos _, attemptsFor_le _⟩

/-- Every poll that is due uses up an attempt, unless the last report is given up. -/
theorem Closing.patience_poll (h : q.Closing) (hq : q.Regular t) (hp : q.Pending)
    (hdue : ¬ Ahead now q.deadline?)
    (hgiven : ∀ given, (q.poll now).abandoned = some given → given.terminal = false) :
    (q.poll now).queue.patience < q.patience := by
  have hpolls := q.polls now
  generalize q.poll now = d at hpolls hgiven ⊢
  cases hpolls with
  | idle flight waiting => exact absurd waiting (hp flight)
  | waits f flight early =>
      rw [deadline?, flight] at hdue
      exact absurd (ahead_some.2 early) hdue
  -- What is sent again leaves its report one attempt fewer.
  | repeats f flight due more =>
      have hsame : ∀ b, { q with
        inFlight := some { f with attempts := f.attempts + 1, sentAt := now } }.sendLimit b =
          q.sendLimit b := fun _ => rfl
      have hlimit := q.attemptLimit_le_sendLimit f.terminal
      simp only [patience, flight, hsame]
      omega
  | givesUp f flight due spent last =>
      -- It would have been the last report.
      have hgoing : f.terminal = false := hgiven _ rfl
      rcases last with hlast | hw
      · cases hgoing.symm.trans hlast
      · cases hgoing.symm.trans (h.terminal_of_waiting_nil hq.orderly flight hw)
  -- A report that is sent for the first time has had one of its attempts.
  | sends report waiting flight first =>
      have hsent := patience_sending first now
      simp only [patience, flight] at hsent ⊢
      omega
  | replaces f report waiting flight due spent going first =>
      have hsent := patience_sending first now
      simp only [patience, flight] at hsent ⊢
      omega

/-- The last report waits behind all others. -/
theorem Closing.waiting_eq (h : q.Closing) (hshort : q.waiting.length ≤ 1) :
    q.waiting = [] ∨ ∃ r : Report, q.waiting = [r] ∧ r.isTerminal = true := by
  rcases h with ⟨rest, hstream, -⟩
  rw [stream] at hstream
  cases hw : q.waiting with
  | nil => exact .inl rfl
  | cons r waiting =>
      rw [hw, List.length_cons] at hshort
      cases List.eq_nil_of_length_eq_zero (Nat.le_zero.1 (Nat.le_of_succ_le_succ hshort))
      rw [hw] at hstream
      exact .inr ⟨r, rfl, (List.cons.inj hstream).1⟩

/-- The patience of a queue with the last report is bounded by its limits. -/
theorem Closing.patience_le (h : q.Closing) (hq : q.Regular t) :
    q.patience ≤ t.progressRetries + t.terminalRetries + 2 := by
  have hprogress : q.sendLimit false ≤ t.progressRetries + 1 := hq.sendLimit_le false
  have hterminal : q.sendLimit true ≤ t.terminalRetries + 1 := hq.sendLimit_le true
  rw [patience]
  rcases h.waiting_eq hq.short with hw | ⟨r, hw, hr⟩
  · simp only [hw, List.map_nil, List.sum_nil]
    cases hf : q.inFlight with
    | none =>
        simp only
        omega
    | some f =>
        have htried := hq.tried f hf
        simp only
        cases f.terminal <;> omega
  · simp only [hw, List.map_cons, List.map_nil, List.sum_cons, List.sum_nil, hr]
    cases hf : q.inFlight with
    | none =>
        simp only
        omega
    | some f =>
        -- What waits is the last report, so what is in flight is not.
        have htried := hq.tried f hf
        have hgoing := h.terminal_of_waiting hq.orderly hf (hw ▸ List.cons_ne_nil r [])
        simp only [hgoing]
        omega

end ReportQueue

/-! ### Agents -/

/-- What is left to be done without an answer: questions, or reports. -/
def AgentSession.patience (t : Timing) (s : AgentSession) : Nat :=
  match s.stage with
  | .receiving r => t.maxAttempts - r.nudges + 1
  | _ => s.reports.patience

namespace Agent

variable {a : Agent} {s : AgentSession} {now : Nat}

/-- An agent is polled at its deadline. -/
def await : Nat × Agent → Nat × Agent :=
  polledAt deadline? (fun a now => (a.poll now).state)

/-- What is left to be done in a session, and the recovery of the rover. -/
def patience (a : Agent) : Nat :=
  match a.session with
  | none => 0
  | some s => s.patience a.timing + if a.recoverAt.isSome then 1 else 0

/-- No mission is being carried out. -/
def IsWaiting (a : Agent) : Prop := ∀ s, a.session = some s → ∀ e, s.stage ≠ .executing e

theorem IsWaiting.of_none (h : a.session = none) : a.IsWaiting := by
  intro s hs
  rw [h] at hs
  cases hs

theorem patience_of_none (h : a.session = none) : a.patience = 0 := by
  simp only [patience, h]

theorem phase_eq_idle : a.phase = .idle ↔ a.session = none := by
  rw [phase]
  cases a.session with
  | none => exact iff_of_true rfl rfl
  | some s =>
      refine iff_of_false ?_ nofun
      simp only [AgentSession.phase]
      split
      · split <;> exact nofun
      · exact nofun
      · exact nofun

theorem isWaiting_iff : a.IsWaiting ↔ a.phase ≠ .executing := by
  cases hs : a.session with
  | none =>
      rw [phase, hs]
      exact iff_of_true (.of_none hs) nofun
  | some s =>
      -- Of the three stages only one shows as executing.
      simp only [IsWaiting, phase, hs, Option.some.injEq, forall_eq', AgentSession.phase]
      cases s.stage with
      | receiving r =>
          refine iff_of_true nofun ?_
          simp only
          split <;> exact nofun
      | executing e => exact iff_of_false (fun h => h e rfl) (fun h => h rfl)
      | reporting => exact iff_of_true nofun nofun

/-- A session that waits has a deadline. -/
theorem isSome_deadline? (ha : a.Regular) (h : a.IsWaiting) (hs : a.session = some s) :
    a.deadline?.isSome := by
  have hsession : (s.deadline? a.timing a.rover).isSome := by
    have hstage := (ha s hs).stage
    rw [AgentSession.deadline?]
    cases hr : s.stage with
    | receiving r => rfl
    | executing e => exact absurd hr (h s hs e)
    | reporting =>
        rw [hr] at hstage
        simp only [ReportQueue.deadline?]
        cases hf : s.reports.inFlight with
        | none =>
            simp only [if_neg (hstage.2 hf)]
            rfl
        | some f => rfl
  rcases Option.isSome_iff_exists.1 hsession with ⟨d, hd⟩
  rw [deadline?, hs, Option.bind_some, hd]
  cases a.recoverAt <;> rfl

/-! ### Recovery -/

/-- When its time has come, the rover recovers. -/
theorem recover_of_due (h : ¬ Ahead now a.recoverAt) :
    a.recover now = { a with rover := a.rover.clearFault, recoverAt := none } ∧
      a.recoverAt.isSome := by
  rw [recover]
  cases htime : a.recoverAt with
  | none => exact absurd (htime ▸ ahead_none now) h
  | some time =>
      rw [htime, ahead_some] at h
      exact ⟨if_neg h, rfl⟩

/-- Recovery is one of the things to be done. -/
theorem patience_recover_lt (hs : a.session = some s) (h : ¬ Ahead now a.recoverAt) :
    (a.recover now).patience < a.patience := by
  rcases recover_of_due h with ⟨hrecover, hsome⟩
  rw [hrecover]
  simp only [patience, hs, hsome, Option.isSome_none, Bool.false_eq_true, if_false, if_true]
  omega

theorem patience_recover_le (hs : a.session = some s) :
    (a.recover now).patience ≤ a.patience := by
  by_cases h : Ahead now a.recoverAt
  · rw [recover_of_ahead h]
  · exact Nat.le_of_lt (patience_recover_lt hs h)

/-- The rest of a poll finds a rover that has recovered if it could. -/
theorem poll_recover (a : Agent) (now : Nat) : (a.recover now).poll now = a.poll now := by
  rw [poll, recover_of_ahead (a.ahead_recover now), poll]

/-! ### Polls -/

/-- When the transfer is due, a question is asked, or it is given up. -/
theorem patience_pollTransfer (hs : a.session = some s) {r : Reception}
    (hr : s.stage = .receiving r) (hdue : ¬ now < after r.lastInbound a.timing.timeout) :
    (a.pollTransfer now).state.IsWaiting ∧ (a.pollTransfer now).state.patience < a.patience := by
  have hpos : 0 < a.patience := by
    simp only [patience, hs, AgentSession.patience, hr]
    omega
  have hpolls := pollsTransfer hs hr now
  generalize a.pollTransfer now = x at hpolls ⊢
  cases hpolls with
  | waits early => exact absurd early hdue
  | givesUp due spent => exact ⟨.of_none rfl, hpos⟩
  -- One of the attempts to ask is used up.
  | asks due more lastInbound nudges =>
      refine ⟨?_, ?_⟩
      · rintro _ ⟨⟩
        exact nofun
      · simp only [patience, hs, within, AgentSession.patience, hr, nudges]
        refine Nat.add_lt_add_right ?_ _
        omega

/-- When the reports are due, one is sent, or the last one is given up. -/
theorem patience_pollReports (ha : a.Regular) (hs : a.session = some s) (hr : s.stage = .reporting)
    (hdue : ¬ Ahead now s.reports.deadline?) :
    (a.pollReports now).state.IsWaiting ∧ (a.pollReports now).state.patience < a.patience := by
  have hregular := ha s hs
  have hstage := hregular.stage
  rw [hr] at hstage
  -- The session closes and nothing is left, or the queue has used something up.
  rcases (pollReports_cases hs now).2 with ⟨-, -, -, hstate⟩ | ⟨hgoing, hstate⟩
  · rw [hstate]
    refine ⟨.of_none rfl, ?_⟩
    rw [patience_of_none rfl]
    simp only [patience, hs, AgentSession.patience, hr, ReportQueue.patience]
    omega
  · have hless := hstage.1.patience_poll hregular.reports hstage.2 hdue hgoing
    rw [hstate]
    refine ⟨?_, ?_⟩
    · rintro _ ⟨⟩ e he
      exact absurd (hr.symm.trans he) nofun
    · simp only [patience, hs, within, AgentSession.patience, hr]
      exact Nat.add_lt_add_right hless _

/-- Once the rover has recovered if it could, a poll that is due uses something up in
    the session. -/
theorem patience_poll_of_recovered (ha : a.Regular) (h : a.IsWaiting) (hs : a.session = some s)
    (hrecover : Ahead now a.recoverAt) (hdue : ¬ Ahead now a.deadline?) :
    (a.poll now).state.IsWaiting ∧ (a.poll now).state.patience < a.patience := by
  -- The body has no clock that is due, so it must be the session's.
  have hsession : ¬ Ahead now (s.deadline? a.timing a.rover) := by
    intro hahead
    rw [deadline?, hs, Option.bind_some, ahead_earliest] at hdue
    exact hdue ⟨hahead, hrecover⟩
  rw [AgentSession.deadline?] at hsession
  cases hr : s.stage with
  -- Ticks could go on for any time, which is why the rover must not be executing.
  | executing e => exact absurd hr (h s hs e)
  | receiving r =>
      have hbusy : a.isBusy = false := by
        rw [isBusy, hs]
        exact AgentSession.isBusy_eq hr
      rw [hr, ahead_some] at hsession
      rw [poll_of_not_busy ha.silent hbusy, recover_of_ahead hrecover]
      exact patience_pollTransfer hs hr hsession
  | reporting =>
      have hbusy : a.isBusy = true := by
        rw [isBusy, hs]
        exact AgentSession.isBusy_eq hr
      rw [hr] at hsession
      rw [poll_of_busy hbusy, recover_of_ahead hrecover, pollExecution_of_ne hs (h s hs)]
      exact patience_pollReports ha hs hr hsession

/-- Every poll that is due uses something up. -/
theorem patience_poll (ha : a.Regular) (h : a.IsWaiting) (hs : a.session = some s)
    (hdue : ¬ Ahead now a.deadline?) :
    (a.poll now).state.IsWaiting ∧ (a.poll now).state.patience < a.patience := by
  have hb : (a.recover now).Regular := (proceeds_recover ha now).regular
  have hsame := (a.recover_eq now).1
  have hwaiting : (a.recover now).IsWaiting := by
    rw [IsWaiting, hsame]
    exact h
  rw [← poll_recover]
  by_cases hahead : Ahead now (a.recover now).deadline?
  · -- There was nothing to do but to recover.
    rw [poll_of_ahead hb hahead]
    refine ⟨hwaiting, patience_recover_lt hs (fun hrecover => hdue ?_)⟩
    rw [recover_of_ahead hrecover] at hahead
    exact hahead
  · rcases patience_poll_of_recovered hb hwaiting (hsame.trans hs) (a.ahead_recover now) hahead with
      ⟨hnext, hless⟩
    exact ⟨hnext, Nat.lt_of_lt_of_le hless (patience_recover_le hs)⟩

/-- So does waiting for the deadline. -/
theorem patience_await (ha : a.Regular) (h : a.IsWaiting) (hopen : a.phase ≠ .idle) (now : Nat) :
    (await (now, a)).2.Regular ∧ (await (now, a)).2.IsWaiting ∧
      (await (now, a)).2.patience < a.patience := by
  rcases Option.ne_none_iff_exists'.1 (fun hnone => hopen (phase_eq_idle.2 hnone)) with ⟨s, hs⟩
  exact ⟨(proceeds_poll ha _).regular,
    patience_poll ha h hs (not_ahead_max (isSome_deadline? ha h hs))⟩

/-- The patience of an agent is bounded by its limits. -/
theorem Regular.patience_le (ha : a.Regular) (h : a.IsWaiting) :
    a.patience ≤
      a.timing.maxAttempts + a.timing.progressRetries + a.timing.terminalRetries + 5 := by
  rw [patience]
  cases hs : a.session with
  | none => exact Nat.zero_le _
  | some s =>
      have hrecovery : (if a.recoverAt.isSome then 1 else 0) ≤ 1 := by split <;> omega
      have hsession : s.patience a.timing ≤
          a.timing.maxAttempts + a.timing.progressRetries + a.timing.terminalRetries + 2 := by
        have hstage := (ha s hs).stage
        rw [AgentSession.patience]
        cases hr : s.stage with
        | receiving r =>
            simp only
            omega
        | executing e => exact absurd hr (h s hs e)
        | reporting =>
            rw [hr] at hstage
            have hqueue := hstage.1.patience_le (ha s hs).reports
            simp only
            omega
      simp only
      omega

end Agent

/-- Every wait is bounded, whatever has happened before. When a machine is polled at
    its deadlines and hears of nothing else, a supervisor that has greeted and is not
    just sending the mission is done after as many polls as it has attempts or final
    acknowledgements, and an agent that is not carrying out a mission is idle after as
    many polls as it has attempts of all kinds, and five. -/
theorem waits_bounded {timing : Timing} {rover : Int} {mission : Mission} {s₀ : Supervisor}
    (hs : Supervisor.prepare timing rover mission = .ok s₀) (turns : List Supervisor.Input)
    (id : Int) (agentTiming : Timing) (body : Rover) (inputs : List Agent.Input) (now : Nat) :
    let s := s₀.run turns
    let a := ((Agent.start id agentTiming body).run inputs).state
    (s.phase ≠ .idle → (∀ retries, s.phase ≠ .transmitting retries) →
      ∃ n ≤ max 1 (max timing.maxAttempts timing.finalAckRepeats),
        (Supervisor.await^[n] (now, s)).2.isFinished = true) ∧
    (a.phase ≠ .executing →
      ∃ n ≤ agentTiming.maxAttempts + agentTiming.progressRetries +
          agentTiming.terminalRetries + 5,
        (Agent.await^[n] (now, a)).2.phase = .idle) := by
  intro s a
  have hsound : s.Regular timing := Supervisor.regular_run (.prepare hs) turns
  rcases Agent.regular_run (.start id agentTiming body) inputs with ⟨ha, htiming, -⟩
  refine ⟨fun hidle htransmitting => ?_, fun hwaiting => ?_⟩
  · -- Patience is a measure that every poll at the deadline makes smaller.
    have hreached := exists_iterate_le Supervisor.await (fun p => p.2.IsWaiting)
      (fun p => p.2.isFinished = true) (fun p => p.2.patience)
      (fun p h hopen => Supervisor.patience_await h (eq_false_of_ne_true hopen) p.1)
      (x := (now, s)) ⟨hidle, htransmitting⟩
    rcases hreached with ⟨n, hn, hfinished⟩
    exact ⟨n, Nat.le_trans hn hsound.patience_le, hfinished⟩
  · have hreached := exists_iterate_le Agent.await (fun p => p.2.Regular ∧ p.2.IsWaiting)
      (fun p => p.2.phase = .idle) (fun p => p.2.patience)
      (fun p h hopen => and_assoc.2 (Agent.patience_await h.1 h.2 hopen p.1))
      (x := (now, a)) ⟨ha, Agent.isWaiting_iff.2 hwaiting⟩
    rcases hreached with ⟨n, hn, hidle⟩
    refine ⟨n, Nat.le_trans hn ?_, hidle⟩
    have hbound := ha.patience_le (Agent.isWaiting_iff.2 hwaiting)
    rw [show a.timing = agentTiming from htiming] at hbound
    exact hbound

/-- A supervisor has greeted, and a rover has reported an obstacle on its way to an
    area without end; neither hears anything from then on. -/
theorem waits_bounded_unanswered :
    let m : Mission := ⟨1, ⟨0x7f800000⟩, .zero, ⟨0x7f800000⟩, .zero, "scan", 60, 2, 0, 1⟩
    let hello : Message := { kind := .hello, sender := 0, receiver := 7, mission := 1 }
    let inputs : List Agent.Input := [.hear hello 0,
      .hear { hello with kind := .mission, seq := 2, payload := .mission m } 1,
      .inject .obstacle, .wait 1001]
    let a := ((Agent.start 7 {} (.start {} .zero .zero .hundred none)).run inputs).state
    ∃ s₀, Supervisor.prepare {} 7 m = .ok s₀ ∧
      let s := s₀.run [.greet 0]
      s.isFinished = false ∧ a.phase = .reportingTerminal ∧
      (∃ n ≤ 3, (Supervisor.await^[n] (0, s)).2.isFinished = true) ∧
      (∃ n ≤ 19, (Agent.await^[n] (1001, a)).2.phase = .idle) := by
  intro m hello inputs a
  have hs : ∃ s₀, Supervisor.prepare {} 7 m = .ok s₀ ∧
      (s₀.run [.greet 0]).phase = .awaitingResponse 0 5000 :=
    Supervisor.exists_prepare_of_check (by decide +kernel)
  rcases hs with ⟨s₀, hs, hgreeted⟩
  have hreporting : a.phase = .reportingTerminal := by decide +kernel
  have hbounded := waits_bounded hs [.greet 0] 7 {} (.start {} .zero .zero .hundred none) inputs
  refine ⟨s₀, hs, ?_, hreporting, (hbounded 0).1 ?_ ?_, (hbounded 1001).2 ?_⟩
  · rw [Supervisor.isFinished, hgreeted]
  · rw [hgreeted]
    exact nofun
  · rw [hgreeted]
    exact fun _ => nofun
  · rw [show ((Agent.start 7 {} _).run inputs).state.phase = _ from hreporting]
    exact nofun

end RoverDispatch
