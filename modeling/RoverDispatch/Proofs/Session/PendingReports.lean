import RoverDispatch.Proofs.Session.Agents

/-!
# Pending Reports

What a session still has to report, whatever it is told.

The queue of a session never grows: progress that waits gives way to newer
progress and to the end of the mission, so one report waits at most. Behind it
there may be one in flight. Which of the two ends the mission follows from
`ReportQueue.Closing`, since the report in flight is the latest that was sent
and the last report of all is the one that ends the mission. When the mission
is over, this one stays pending until it is confirmed or given up.

A queue belongs to the session that it was made for, whose timing it keeps.
`ReportQueue.Regular` collects all this, and the operations preserve it. Ticks
of a mission are among them; what one tick keeps, any number of ticks keep.

## Main definitions

* `ReportQueue.Regular`: A queue of a session with a given timing.
* `ReportQueue.Pending`: Some report has not been confirmed.
* `Drive.moved`: A tick before its consequences.

## Theorems

* `ReportQueue.Regular.poll`, `ReportQueue.Regular.confirm`: What a queue stays.
* `ReportQueue.Closing.terminal_of_waiting_nil`,
  `ReportQueue.Closing.terminal_of_waiting`: Which report is the last.
* `ReportQueue.Closing.pending_poll`, `ReportQueue.Closing.pending_landing`: The
  last report stays pending.
* `Drive.tick_cases`: What a tick leads to.
* `Drive.ticks_induction`: What every tick keeps.
* `Drive.regular_ticks`, `Drive.pending_ticks`, `Drive.lastTick_ticks`: What
  ticks make of the reports and the time.
-/

namespace RoverDispatch

namespace ReportQueue

variable {q q' : ReportQueue} {t : Timing} {f : InFlight}

/-- A queue of a session with the given timing: what was sent is in order, one
    report waits at most, and one that is in flight was sent. -/
structure Regular (t : Timing) (q : ReportQueue) : Prop where
  orderly : q.Orderly
  timeout : q.timeout = t.timeout
  progressAttempts : q.progressAttempts = attemptsFor t.progressRetries
  terminalAttempts : q.terminalAttempts = attemptsFor t.terminalRetries
  short : q.waiting.length ≤ 1
  tried : ∀ f, q.inFlight = some f → 0 < f.attempts

theorem Regular.start (agent coordinator mission : Int) (t : Timing) :
    (ReportQueue.start agent coordinator mission t).Regular t where
  orderly := .start ..
  timeout := rfl
  progressAttempts := rfl
  terminalAttempts := rfl
  short := Nat.zero_le _
  tried := fun _ hf => absurd hf nofun

/-- What is in flight can be put aside. -/
theorem Regular.landing (h : q.Regular t) : { q with inFlight := none }.Regular t :=
  { h with
    orderly := (sends_landing h.orderly (fun _ hm => absurd hm List.not_mem_nil)).orderly
    tried := fun _ hf => absurd hf nofun }

theorem Regular.sending (h : q.Regular t) {report : Report} {waiting : List Report}
    (hw : q.waiting = report :: waiting) (now : Nat) : (q.sending report waiting now).Regular t :=
  { h with
    orderly := (sends_sending h.orderly hw now).orderly
    short := by
      have hshort := h.short
      rw [hw, List.length_cons] at hshort
      exact Nat.le_of_succ_le hshort
    tried := by
      rintro f hf
      cases hf
      exact Nat.one_pos }

theorem Regular.poll (h : q.Regular t) (now : Nat) : (q.poll now).queue.Regular t := by
  have hpolls := q.polls now
  generalize q.poll now = d at hpolls ⊢
  cases hpolls with
  | idle flight waiting => exact h
  | waits f flight early => exact h
  -- One attempt more, so there has been one in any case.
  | repeats f flight due more =>
      exact { h with
        orderly := (sends_repeating h.orderly flight _ now).orderly
        tried := by
          rintro g hg
          cases hg
          exact Nat.succ_pos _ }
  | givesUp f flight due spent last => exact h.landing
  | sends report waiting flight first => exact h.sending first now
  | replaces f report waiting flight due spent going first => exact h.sending first now

theorem Regular.confirm (h : q.Regular t) {seq : Int} {ack : Ack} {c : Confirmation}
    (hc : q.confirm? seq ack = some c) : c.queue.Regular t := by
  rcases confirm?_eq_some hc with ⟨f, -, -, hqueue, -⟩
  rw [hqueue]
  exact h.landing

theorem Regular.sameSent (h : q.Regular t) (hq : q.SameSent q') (hshort : q'.waiting.length ≤ 1) :
    q'.Regular t := by
  have horderly := h.orderly.sameSent hq
  rw [hq] at horderly ⊢
  exact { h with orderly := horderly, short := hshort }

/-- Nothing that waits ends a mission under way. -/
theorem Open.filter_waiting (h : q.Open) : q.waiting.filter Report.isTerminal = [] := by
  refine List.filter_eq_nil_iff.2 (fun r hr he => ?_)
  cases ((open_iff.1 h).1 r hr).symm.trans he

/-- Progress replaces the progress that waits. -/
theorem Open.length_replaceLast (h : q.Open) (hshort : q.waiting.length ≤ 1) (p : Progress) :
    (replaceLast q.waiting p).length ≤ 1 := by
  cases hw : q.waiting with
  | nil => exact Nat.le_refl 1
  | cons r rest =>
      have hgoing := (open_iff.1 h).1 r (hw ▸ List.mem_cons_self ..)
      rw [hw, List.length_cons] at hshort
      cases List.eq_nil_of_length_eq_zero (Nat.le_zero.1 (Nat.le_of_succ_le_succ hshort))
      cases r with
      | progress p' => exact Nat.le_refl 1
      | completed => cases hgoing
      | error e => cases hgoing

/-- One more report does not make the queue of a mission under way longer. -/
theorem Open.length_enqueue (h : q.Open) (hshort : q.waiting.length ≤ 1) (report : Report) :
    (q.enqueue report).waiting.length ≤ 1 := by
  cases report with
  | progress p =>
      rw [enqueue]
      split
      · exact hshort
      · exact h.length_replaceLast hshort p
  | completed =>
      simp only [enqueue, h.filter_waiting, List.nil_append, List.length_singleton, Nat.le_refl]
  | error e =>
      simp only [enqueue, h.filter_waiting, List.nil_append, List.length_singleton, Nat.le_refl]

/-- With nothing in flight, nothing is given up. -/
theorem abandoned_of_landed (h : q.inFlight = none) (now : Nat) :
    (q.poll now).abandoned = none := by
  rw [ReportQueue.poll, h]
  simp only [sendNext]
  split <;> rfl

/-! ### The last report -/

/-- Some report is in flight or waits to be. -/
def Pending (q : ReportQueue) : Prop := q.inFlight = none → q.waiting ≠ []

theorem pending_of_flight (hf : q.inFlight = some f) : q.Pending :=
  fun hnone => nomatch hnone.symm.trans hf

/-- When nothing waits behind it, the report in flight is the last. -/
theorem Closing.terminal_of_waiting_nil (h : q.Closing) (ho : q.Orderly) (hf : q.inFlight = some f)
    (hw : q.waiting = []) : f.terminal = true := by
  rcases h with ⟨rest, hstream, -⟩
  rcases ho.flight f hf with ⟨-, hterminal, hhead⟩
  rcases List.head?_eq_some_iff.1 hhead with ⟨sent, hsent⟩
  rw [stream, hw, hsent] at hstream
  rw [hterminal]
  exact (List.cons.inj hstream).1

/-- When a report waits behind it, the report in flight is not the last. -/
theorem Closing.terminal_of_waiting (h : q.Closing) (ho : q.Orderly) (hf : q.inFlight = some f)
    (hw : q.waiting ≠ []) : f.terminal = false := by
  rcases h with ⟨rest, hstream, hrest⟩
  rcases ho.flight f hf with ⟨-, hterminal, hhead⟩
  -- It has been sent, and the true value in front stands for one that has not.
  have hmem : f.terminal ∈ q.sent.map (fun m => m.kind.isTerminal) :=
    hterminal ▸ List.mem_map_of_mem (List.mem_of_head? hhead)
  cases hb : (q.waiting.map Report.isTerminal).reverse with
  | nil => exact absurd (List.map_eq_nil_iff.1 (List.reverse_eq_nil_iff.1 hb)) hw
  | cons b bs =>
      rw [stream, hb, List.cons_append, List.cons.injEq] at hstream
      exact hrest _ (hstream.2 ▸ List.mem_append_right _ hmem)

/-- As long as the last report is not given up, it is pending. -/
theorem Closing.pending_poll (h : q.Closing) (ho : q.Orderly) (hp : q.Pending) {now : Nat}
    (hgiven : ∀ given, (q.poll now).abandoned = some given → given.terminal = false) :
    (q.poll now).queue.Pending := by
  have hpolls := q.polls now
  generalize q.poll now = d at hpolls hgiven ⊢
  cases hpolls with
  | idle flight waiting => exact hp
  | waits f flight early => exact hp
  | repeats f flight due more => exact pending_of_flight rfl
  | givesUp f flight due spent last =>
      -- With nothing waiting, the report in flight is the last.
      have hgoing : f.terminal = false := hgiven _ rfl
      rcases last with hlast | hw
      · cases hgoing.symm.trans hlast
      · cases hgoing.symm.trans (h.terminal_of_waiting_nil ho flight hw)
  | sends report waiting flight first => exact pending_of_flight rfl
  | replaces f report waiting flight due spent going first => exact pending_of_flight rfl

/-- When another report is confirmed, the last one waits. -/
theorem Closing.pending_landing (h : q.Closing) (ho : q.Orderly) (hf : q.inFlight = some f)
    (hgoing : f.terminal = false) : { q with inFlight := none }.Pending := by
  intro _ hw
  cases hgoing.symm.trans (h.terminal_of_waiting_nil ho hf hw)

end ReportQueue

/-! ### Ticks -/

theorem Rover.simulation_step (r : Rover) (m : Mission) (elapsed duration : Nat) :
    (r.step m elapsed duration).simulation = r.simulation := by
  simp only [step, strike, moveTo]
  split
  · split <;> rfl
  · split <;> split <;> rfl

namespace Drive

variable {d : Drive} {t : Timing} {timestamp : Int}

/-- A tick before its consequences: the rover has moved. -/
def moved (d : Drive) : Drive :=
  let e := { d.execution with lastTick := d.execution.lastTick + d.rover.tickLength }
  { d with execution := e, rover := d.rover.step e.mission (e.lastTick - e.startedAt) e.duration }

/-- A tick ends the mission with a report, or there may be progress to report. -/
theorem tick_cases (d : Drive) (timestamp : Int) :
    (∃ report : Report, report.isTerminal = true ∧ d.tick timestamp = d.moved.finish report) ∨
      ∃ elapsed, d.tick timestamp = d.moved.reportProgress elapsed := by
  simp only [tick]
  split
  · exact .inl ⟨_, rfl, rfl⟩
  · split
    · exact .inl ⟨_, rfl, rfl⟩
    · exact .inr ⟨_, rfl⟩

/-- Time goes by with every tick, and the rover stays as it is made. -/
theorem tick_keeps (d : Drive) (timestamp : Int) :
    (d.tick timestamp).rover.simulation = d.rover.simulation ∧
      (d.tick timestamp).execution.lastTick = d.execution.lastTick + d.rover.tickLength := by
  have hmoved : d.moved.rover.simulation = d.rover.simulation := Rover.simulation_step ..
  rcases d.tick_cases timestamp with ⟨report, -, he⟩ | ⟨elapsed, he⟩
  · rw [he]
    exact ⟨hmoved, rfl⟩
  · rw [he, reportProgress]
    split <;> exact ⟨hmoved, rfl⟩

/-- What every tick keeps, a number of ticks keep. -/
theorem ticks_induction {P : Drive → Prop}
    (tick : ∀ d : Drive, P d → d.ended = false → P (d.tick timestamp)) (h : P d) (n : Nat) :
    P (d.ticks timestamp n) := by
  induction n generalizing d with
  | zero => exact h
  | succ n ih =>
      rw [ticks]
      split
      · exact h
      · rename_i hgoing
        exact ih (tick d h (eq_false_of_ne_true hgoing))

theorem simulation_ticks (d : Drive) (timestamp : Int) (n : Nat) :
    (d.ticks timestamp n).rover.simulation = d.rover.simulation :=
  ticks_induction (P := fun d' => d'.rover.simulation = d.rover.simulation)
    (fun d' h _ => (d'.tick_keeps timestamp).1.trans h) rfl n

/-- A mission that has not ended has come as far as there were ticks. -/
theorem lastTick_ticks (d : Drive) (timestamp : Int) (n : Nat)
    (h : (d.ticks timestamp n).ended = false) :
    (d.ticks timestamp n).execution.lastTick =
      d.execution.lastTick + n * d.rover.tickLength := by
  induction n generalizing d with
  | zero => rw [ticks, Nat.zero_mul, Nat.add_zero]
  | succ n ih =>
      rw [ticks] at h ⊢
      split at h
      · rename_i hended
        cases h.symm.trans hended
      · -- A tick does not change how long ticks are.
        rename_i hgoing
        rcases d.tick_keeps timestamp with ⟨hsimulation, hlast⟩
        have hlength : (d.tick timestamp).rover.tickLength = d.rover.tickLength := by
          rw [Rover.tickLength, hsimulation, Rover.tickLength]
        rw [if_neg hgoing, ih _ h, hlast, hlength, Nat.succ_mul]
        omega

/-- Ticks do not make the queue longer. -/
theorem regular_tick (h : d.Sound) (hgoing : d.ended = false) (hq : d.reports.Regular t) :
    (d.tick timestamp).reports.Regular t := by
  have hopen := h.going hgoing
  refine hq.sameSent (h.tick hgoing timestamp).2 ?_
  rcases d.tick_cases timestamp with ⟨report, -, he⟩ | ⟨elapsed, he⟩
  · rw [he]
    exact hopen.length_enqueue hq.short report
  · rw [he, reportProgress]
    split
    · exact hopen.length_enqueue hq.short _
    · exact hq.short

theorem regular_ticks (h : d.Sound) (hq : d.reports.Regular t) (timestamp : Int) (n : Nat) :
    (d.ticks timestamp n).reports.Regular t :=
  (ticks_induction (P := fun d => d.Sound ∧ d.reports.Regular t)
    (fun _ h hgoing => ⟨(h.1.tick hgoing timestamp).1, regular_tick h.1 hgoing h.2⟩)
    ⟨h, hq⟩ n).2

/-- The last report of a mission waits when the mission has just ended. -/
theorem pending_ticks (h : d.Sound) (hgoing : d.ended = false) (timestamp : Int) (n : Nat)
    (hended : (d.ticks timestamp n).ended = true) : (d.ticks timestamp n).reports.Pending := by
  rcases ticks_sound h timestamp n with ⟨hsound, hsame⟩
  rcases hsound.closing hended with ⟨rest, hstream, -⟩
  -- None of the reports that were sent ends the mission, so one that waits does.
  intro _ hw
  rw [ReportQueue.stream, hw, hsame.sent, List.map_nil, List.reverse_nil, List.nil_append] at hstream
  have hmem : true ∈ d.reports.sent.map (fun m => m.kind.isTerminal) :=
    hstream ▸ List.mem_cons_self ..
  rcases List.mem_map.1 hmem with ⟨m, hm, hterminal⟩
  cases ((ReportQueue.open_iff.1 (h.going hgoing)).2 m hm).symm.trans hterminal

end Drive

end RoverDispatch
