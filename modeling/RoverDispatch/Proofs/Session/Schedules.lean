import RoverDispatch.Proofs.Session.Deadlines

/-!
# Schedules

A mission comes to the same, however often the rover is polled.

The ticks of a mission lie a fixed length apart from its start, and a poll
carries out those that have passed. So polls that follow each other carry out
the ticks of the last of them, in parts. That the parts make up the whole is
`Drive.ticks_add`, and that each poll goes on where the one before has stopped
follows from where the last tick of a mission under way lies.

The one thing that a tick is told about the poll is the time, and only an error
report tells it. Hence ticks can be carried out in the name of another poll as
long as the mission goes on, and when it fails, the reports agree but for the
time: `Drive.Redated`. A rover whose mission has ended is not driven any more,
so the poll in whose name it has failed is the one that counts.

## Main definitions

* `Drive.poll`: What a poll makes of a mission under way.
* `Drive.Redated`: An error report tells another time.
* `Agent.driving`: An agent with a mission as far as it has come.

## Theorems

* `Drive.ticks_add`: Ticks after ticks.
* `Drive.ticks_of_going`: As long as the mission goes on, no time is told.
* `Drive.redated_ticks`: When it has ended, only an error report tells it.
* `Drive.foldl_poll`: Polls that follow each other.
* `Agent.late_polls_agree`: An agent polled often and one polled late.
-/

namespace RoverDispatch

namespace Drive

variable {d : Drive} {timestamp timestamp' : Int} {m n now later : Nat}

/-- What a poll makes of a mission under way; one that has ended stays as it is. -/
def poll (d : Drive) (now : Nat) : Drive :=
  d.ticks (now / 1000 : Nat) (d.execution.due d.rover now)

/-- After its end a mission stays as it is. -/
theorem ticks_of_ended (h : d.ended = true) (timestamp : Int) (n : Nat) :
    d.ticks timestamp n = d := by
  cases n with
  | zero => rfl
  | succ n => rw [ticks, if_pos h]

/-- Ticks after ticks. -/
theorem ticks_add (d : Drive) (timestamp : Int) (m n : Nat) :
    d.ticks timestamp (m + n) = (d.ticks timestamp m).ticks timestamp n := by
  induction m generalizing d with
  | zero => rw [Nat.zero_add, ticks]
  | succ m ih =>
      rw [show m + 1 + n = m + n + 1 by omega]
      by_cases hended : d.ended = true
      · rw [ticks_of_ended hended, ticks_of_ended hended, ticks_of_ended hended]
      · rw [ticks, if_neg hended, ticks, if_neg hended]
        exact ih _

/-! ### Times of errors -/

/-- The last waiting report tells the given time instead of its own, if it is an
    error; all else is the same. -/
inductive Redated (timestamp : Int) (d : Drive) : Drive → Prop where
  | same : Redated timestamp d d
  | error {waiting : List Report} {e : ErrorReport}
      (last : d.reports.waiting = waiting ++ [.error e]) :
      Redated timestamp d { d with reports := { d.reports with
        waiting := waiting ++ [.error { e with timestamp }] } }

/-- The mission has taken the same course. -/
theorem Redated.course {d' : Drive} (h : Redated timestamp d d') :
    d'.rover = d.rover ∧ d'.execution = d.execution ∧ d'.ended = d.ended := by
  cases h <;> exact ⟨rfl, rfl, rfl⟩

/-- As long as the mission goes on, a tick tells no time. -/
theorem tick_of_going (h : (d.tick timestamp).ended = false) (timestamp' : Int) :
    d.tick timestamp' = d.tick timestamp := by
  simp only [tick] at h ⊢
  split
  · rename_i fault hfault
    rw [hfault] at h
    cases h
  · rfl

/-- An error ends the mission, whatever time it tells. -/
theorem redated_finish (d : Drive) (e : ErrorReport) (timestamp : Int) :
    Redated timestamp (d.finish (.error e)) (d.finish (.error { e with timestamp })) := by
  have hlast : (d.finish (.error e)).reports.waiting =
      d.reports.waiting.filter Report.isTerminal ++ [.error e] := rfl
  exact .error hlast

/-- A tick that fails reports the error with the time, and that is all. -/
theorem redated_tick (d : Drive) (timestamp timestamp' : Int) :
    Redated timestamp' (d.tick timestamp) (d.tick timestamp') := by
  simp only [tick]
  split
  · exact redated_finish _ _ timestamp'
  · exact .same

theorem ticks_of_going (h : (d.ticks timestamp n).ended = false) (timestamp' : Int) :
    d.ticks timestamp' n = d.ticks timestamp n := by
  induction n generalizing d with
  | zero => rfl
  | succ n ih =>
      by_cases hended : d.ended = true
      · rw [ticks_of_ended hended, ticks_of_ended hended]
      · rw [ticks, if_neg hended] at h ⊢
        rw [ticks, if_neg hended]
        by_cases htick : (d.tick timestamp).ended = true
        · -- The mission would have ended with this tick.
          rw [ticks_of_ended htick] at h
          cases h.symm.trans htick
        · rw [tick_of_going (eq_false_of_ne_true htick) timestamp']
          exact ih h

/-- The time in whose name ticks are carried out is told by an error report and by
    nothing else. -/
theorem redated_ticks (d : Drive) (timestamp timestamp' : Int) (n : Nat) :
    Redated timestamp' (d.ticks timestamp n) (d.ticks timestamp' n) := by
  induction n generalizing d with
  | zero => exact .same
  | succ n ih =>
      by_cases hended : d.ended = true
      · rw [ticks_of_ended hended, ticks_of_ended hended]
        exact .same
      · rw [ticks, if_neg hended, ticks, if_neg hended]
        -- If this tick ends the mission, it is the last, and only its report tells a time.
        by_cases htick : (d.tick timestamp).ended = true
        · have hredated := d.redated_tick timestamp timestamp'
          have htick' : (d.tick timestamp').ended = true := hredated.course.2.2.trans htick
          rw [ticks_of_ended htick, ticks_of_ended htick']
          exact hredated
        · rw [tick_of_going (eq_false_of_ne_true htick) timestamp']
          exact ih _

/-! ### Polls -/

/-- Ticks that have been carried out are not due any more. -/
theorem due_ticks (hgoing : (d.ticks timestamp n).ended = false)
    (hn : n ≤ d.execution.due d.rover now) :
    (d.ticks timestamp n).execution.due (d.ticks timestamp n).rover now =
      d.execution.due d.rover now - n := by
  have hlength : (d.ticks timestamp n).rover.tickLength = d.rover.tickLength := by
    rw [Rover.tickLength, simulation_ticks, Rover.tickLength]
  have hpos : 0 < d.rover.tickLength := Nat.lt_of_lt_of_le Nat.one_pos (Nat.le_max_left ..)
  have hpassed : n * d.rover.tickLength ≤ now - d.execution.lastTick :=
    (Nat.le_div_iff_mul_le hpos).1 hn
  rw [Execution.due, hlength, lastTick_ticks d timestamp n hgoing, Nat.sub_add_eq, Execution.due,
    Nat.mul_comm, Nat.sub_mul_div]

/-- What is due is not less later. -/
theorem due_le (d : Drive) (h : now ≤ later) :
    d.execution.due d.rover now ≤ d.execution.due d.rover later :=
  Nat.div_le_div_right (Nat.sub_le_sub_right h _)

/-- A poll after another carries out the ticks that are due by then, in its own name
    or, if the mission has ended before, in that of the other. -/
theorem poll_ticks (d : Drive) (timestamp : Int) (h : now ≤ later) :
    (d.ticks timestamp (d.execution.due d.rover now)).poll later =
        d.ticks timestamp (d.execution.due d.rover later) ∨
      (d.ticks timestamp (d.execution.due d.rover now)).poll later =
        d.ticks (later / 1000 : Nat) (d.execution.due d.rover later) := by
  have hdue := d.due_le h
  rcases Nat.exists_eq_add_of_le hdue with ⟨more, hmore⟩
  -- The ticks of both polls are those of the later one, cut in two.
  by_cases hended : (d.ticks timestamp (d.execution.due d.rover now)).ended = true
  · refine .inl ?_
    rw [poll, ticks_of_ended hended, hmore, ticks_add, ticks_of_ended hended]
  · have hgoing := eq_false_of_ne_true hended
    refine .inr ?_
    rw [poll, due_ticks hgoing hdue, hmore, Nat.add_sub_cancel_left, ticks_add,
      ticks_of_going hgoing (later / 1000 : Nat)]

/-- A mission that has ended has ended in the same way for a later poll. -/
theorem redated_poll (hended : (d.poll now).ended = true) (h : now ≤ later) :
    Redated (later / 1000 : Nat) (d.poll now) (d.poll later) := by
  rcases Nat.exists_eq_add_of_le (d.due_le h) with ⟨more, hmore⟩
  have hlater : d.ticks (now / 1000 : Nat) (d.execution.due d.rover later) = d.poll now := by
    rw [hmore, ticks_add]
    exact ticks_of_ended hended _ _
  have hredated := d.redated_ticks (now / 1000 : Nat) (later / 1000 : Nat)
    (d.execution.due d.rover later)
  rw [hlater] at hredated
  exact hredated

/-- Polls that follow each other carry out the ticks that are due by the last of
    them, in the name of one of them. -/
theorem foldl_poll (d : Drive) (times : List Nat) (now : Nat)
    (h : (times ++ [now]).Pairwise (· ≤ ·)) :
    ∃ time ∈ times ++ [now], (times ++ [now]).foldl poll d =
      d.ticks (time / 1000 : Nat) (d.execution.due d.rover now) := by
  -- The last poll is the one that is put on top, hence the induction from the right.
  induction times using List.reverseRecOn generalizing now with
  | nil => exact ⟨now, List.mem_singleton_self now, rfl⟩
  | append_singleton times before ih =>
      rcases List.pairwise_append.1 h with ⟨hbefore, -, hlast⟩
      rcases ih before hbefore with ⟨time, htime, he⟩
      have hle := hlast before (List.mem_append_right _ (List.mem_singleton_self before)) now
        (List.mem_singleton_self now)
      rw [List.foldl_append, he]
      rcases d.poll_ticks (time / 1000 : Nat) hle with hpoll | hpoll
      · exact ⟨time, List.mem_append_left _ htime, hpoll⟩
      · exact ⟨now, List.mem_append_right _ (List.mem_singleton_self now), hpoll⟩

end Drive

namespace Agent

/-- An agent with a mission as far as it has come. -/
def driving (a : Agent) (s : AgentSession) (d : Drive) : Agent :=
  { a with
    rover := d.rover
    session := some { s with
      stage := if d.ended then .reporting else .executing d.execution
      reports := d.reports } }

variable {a : Agent} {s : AgentSession} {e : Execution}

/-- What the agent is doing says whether its mission has ended. -/
theorem phase_driving (a : Agent) (s : AgentSession) (d : Drive) :
    (a.driving s d).phase = if d.ended then .reportingTerminal else .executing := by
  simp only [phase, driving, AgentSession.phase]
  by_cases hended : d.ended = true
  · rw [if_pos hended, if_pos hended]
  · rw [if_neg hended, if_neg hended]

/-- A poll of the agent is one of its mission. -/
theorem pollExecution_driving (a : Agent) (s : AgentSession) (d : Drive) (now : Nat) :
    (a.driving s d).pollExecution now = a.driving s (d.poll now) := by
  rcases d with ⟨e, rover, reports, ended⟩
  cases ended with
  | true =>
      rw [Drive.poll, Drive.ticks_of_ended rfl]
      exact pollExecution_of_ne (s := { s with stage := .reporting, reports }) rfl nofun now
  | false =>
      exact pollExecution_executing (s := { s with stage := .executing e, reports }) rfl rfl now

theorem foldl_pollExecution_driving (a : Agent) (s : AgentSession) (d : Drive) (times : List Nat) :
    times.foldl pollExecution (a.driving s d) = a.driving s (times.foldl Drive.poll d) := by
  induction times generalizing d with
  | nil => rfl
  | cons now times ih => rw [List.foldl_cons, pollExecution_driving, ih, List.foldl_cons]

/-- An agent on a mission that is polled at any times in order, and one that is
    polled at the last of them only. Both have the same rover at the same phase.
    Their missions have come equally far, to the last tick and the last report,
    and have ended or not; and what waits to be reported is the same, but that an
    error report tells the time of another poll. A mission that has ended has done
    so at the tick at which it ends whenever the first poll comes. -/
theorem late_polls_agree (hs : a.session = some s) (he : s.stage = .executing e)
    (times : List Nat) (now : Nat) (h : (times ++ [now]).Pairwise (· ≤ ·)) :
    let start : Drive := ⟨e, a.rover, s.reports, false⟩
    let late := start.poll now
    let often := (times ++ [now]).foldl Drive.poll start
    a.pollExecution now = a.driving s late ∧
    (times ++ [now]).foldl pollExecution a = a.driving s often ∧
    (a.driving s often).phase = (a.driving s late).phase ∧
    often.rover = late.rover ∧ often.execution = late.execution ∧ often.ended = late.ended ∧
    (often.reports = late.reports ∨
      ∃ waiting error, late.reports.waiting = waiting ++ [.error error] ∧
        ∃ time ∈ times ++ [now], often.reports = { late.reports with
          waiting := waiting ++ [.error { error with timestamp := (time / 1000 : Nat) }] }) ∧
    ∀ later, now ≤ later → late.ended = true →
      (start.poll later).ended = true ∧ (start.poll later).execution = often.execution := by
  intro start late often
  have ha : a = a.driving s start := by
    simp only [driving, start, Bool.false_eq_true, if_false, ← he, ← hs]
  rcases start.foldl_poll times now h with ⟨time, htime, hoften⟩
  -- Often and late, the same ticks are carried out, in the name of one poll each.
  have hredated : Drive.Redated (time / 1000 : Nat) late often := by
    have hoften' : often = _ := hoften
    rw [hoften']
    exact start.redated_ticks _ _ _
  rcases hredated.course with ⟨hrover, hexecution, hended⟩
  refine ⟨?_, ?_, ?_, hrover, hexecution, hended, ?_, ?_⟩
  · exact (congrArg (fun b => b.pollExecution now) ha).trans (pollExecution_driving a s start now)
  · exact (congrArg (fun b => (times ++ [now]).foldl pollExecution b) ha).trans
      (foldl_pollExecution_driving a s start _)
  · rw [phase_driving, phase_driving, hended]
  · generalize often = d at hredated
    cases hredated with
    | same => exact .inl rfl
    | error last => exact .inr ⟨_, _, last, time, htime, rfl⟩
  · intro later hlater hend
    rcases (Drive.redated_poll hend hlater).course with ⟨-, hexecution', hended'⟩
    exact ⟨hended'.trans hend, hexecution'.trans hexecution.symm⟩

/-- An obstacle stops the rover at the first tick. Whoever polls in time is told of it
    with the time of that poll, and whoever polls late with a later time; and both
    rovers have stopped one second after the start, as in any poll after that. The
    area has no end, so the first step is one without a root. -/
theorem late_polls_agree_obstacle :
    let m : Mission := ⟨1, ⟨0x7f800000⟩, .zero, ⟨0x7f800000⟩, .zero, "scan", 60, 2, 0, 1⟩
    let rover := Rover.start {} .zero .zero .hundred (some ⟨.zero, .obstacle⟩)
    let start : Drive := ⟨.start m 0, rover, .start 7 0 1 {}, false⟩
    let late := start.poll 4000
    let often := [500, 1500, 4000].foldl Drive.poll start
    let told (d : Drive) : List Int := d.reports.waiting.filterMap fun report =>
      match report with
      | .error e => some e.timestamp
      | _ => none
    told late = [4] ∧ told often = [1] ∧ often.rover = late.rover ∧ often.ended = true ∧
      often.execution.lastTick = 1000 ∧ (start.poll 9000).execution.lastTick = 1000 := by
  intro m rover start late often told
  let s : AgentSession :=
    { mission := 1, coordinator := 0, response := default, total := 1,
      stage := .executing (.start m 0), reports := .start 7 0 1 {} }
  have hstopped : late.ended = true ∧ late.execution.lastTick = 1000 := by decide +kernel
  rcases late_polls_agree (a := { Agent.start 7 {} rover with session := some s }) rfl rfl
    [500, 1500] 4000 (by decide) with ⟨-, -, -, hrover, hexecution, hended, -, hlater⟩
  rcases hlater 9000 (by decide) hstopped.1 with ⟨-, hexecution'⟩
  refine ⟨by decide +kernel, by decide +kernel, hrover, hended.trans hstopped.1, ?_, ?_⟩
  · exact (congrArg Execution.lastTick hexecution).trans hstopped.2
  · exact (congrArg Execution.lastTick (hexecution'.trans hexecution)).trans hstopped.2

end Agent

end RoverDispatch
