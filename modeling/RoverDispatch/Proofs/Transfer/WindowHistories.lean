import RoverDispatch.Proofs.Transfer.Windows

/-!
# Histories of Windows

What a window tells of everything that was recorded in it.

A window is asked in two ways. Whether a transfer is complete is decided by
counting the numbers seen, and what to ask for is found by going through the
range. The two agree because a number is seen once at most, and only if it
belongs to the transfer: then the numbers seen are a part of the range, and the
numbers missing are the rest of it.

A history may record any numbers, those of other transfers among them, any
number of times, and forget everything in between. `Window.recorded` reads off
the history alone what has been recorded since then, and a window `Tells` of a
history if it has seen what of this belongs to the transfer.

## Main definitions

* `Window.Operation`, `Window.perform`, `Window.performAll`: What can be done to
  a window.
* `Window.recorded`: What a history has recorded and not forgotten.
* `Window.Tells`: A window and its history.

## Theorems

* `Window.Tells.perform`, `Window.tells_performAll`: A window tells of its
  history.
* `Window.Tells.count_add_length_missing`: What has been seen and what is missing
  make up the transfer.
* `Window.Tells.gaps_eq`: Gaps are what is missing below the highest number.
* `Window.history_exact`: Everything that a window says about its history.
-/

namespace RoverDispatch

namespace Window

variable {w : Window} {first total seq highest : Int}

/-! ### Operations -/

/-- What can be done to a window. -/
inductive Operation where
  | record (seq : Int)
  | reset
  deriving DecidableEq

/-- The number that is recorded. -/
def Operation.number? : Operation → Option Int
  | record seq => some seq
  | reset => none

/-- The window after an operation. A number that is known already or does not
    belong to the transfer changes nothing. -/
def perform (w : Window) : Operation → Window
  | .record seq => (w.record? seq).getD w
  | .reset => w.reset

/-- The window after a number of operations. -/
def performAll (w : Window) (ops : List Operation) : Window := ops.foldl perform w

/-- The numbers that have been recorded since everything was forgotten last,
    the latest first. -/
def recorded (ops : List Operation) : List Int :=
  (ops.reverse.takeWhile (· ≠ .reset)).filterMap Operation.number?

variable {ops : List Operation}

theorem recorded_record (ops : List Operation) (seq : Int) :
    recorded (ops ++ [.record seq]) = seq :: recorded ops := by
  simp [recorded, Operation.number?]

theorem recorded_reset (ops : List Operation) : recorded (ops ++ [.reset]) = [] := by
  simp [recorded]

/-- No operation changes the range. -/
theorem range_perform (w : Window) (op : Operation) :
    (w.perform op).first = w.first ∧ (w.perform op).total = w.total := by
  cases op with
  | record seq =>
      rw [perform, record?]
      split <;> exact ⟨rfl, rfl⟩
  | reset => exact ⟨rfl, rfl⟩

theorem contains_perform (w : Window) (op : Operation) (seq : Int) :
    (w.perform op).contains seq = w.contains seq := by
  rcases w.range_perform op with ⟨hfirst, htotal⟩
  rw [contains, contains, last, last, hfirst, htotal]

/-- A number is new exactly if it is missing. -/
theorem isSome_record?_iff : (w.record? seq).isSome = true ↔ seq ∈ w.missing := by
  have hrange : w.contains seq = true ↔ seq ∈ intRange w.first (w.first + w.total) := by
    rw [contains_iff, mem_intRange, last]
    omega
  rw [missing, List.mem_filter, decide_eq_true_iff, ← hrange, record?]
  split
  · rename_i hnew
    exact iff_of_true rfl hnew
  · rename_i hold
    exact iff_of_false Bool.false_ne_true hold

/-- A number is seen from then on if it belongs to the transfer. -/
theorem mem_seen_record_iff {seq' : Int} : seq' ∈ (w.perform (.record seq)).seen ↔
    seq' = seq ∧ w.contains seq = true ∨ seq' ∈ w.seen := by
  rw [perform, record?]
  split
  · rename_i hnew
    simp only [Option.getD_some, List.mem_cons, hnew.1, and_true]
  · rename_i hold
    rw [Option.getD_none]
    refine ⟨.inr, ?_⟩
    rintro (⟨rfl, hin⟩ | hseen)
    · -- It would have been new otherwise.
      by_contra hunseen
      exact hold ⟨hin, hunseen⟩
    · exact hseen

/-- Nothing is listed twice. -/
theorem nodup_seen_perform (h : w.seen.Nodup) (op : Operation) : (w.perform op).seen.Nodup := by
  cases op with
  | record seq =>
      rw [perform, record?]
      split
      · rename_i hnew
        exact List.nodup_cons.2 ⟨hnew.2, h⟩
      · exact h
  | reset => exact List.nodup_nil

/-! ### Windows and their histories -/

/-- A window for a transfer has seen what its history has recorded of it, and
    has listed nothing twice. -/
structure Tells (first total : Int) (ops : List Operation) (w : Window) : Prop where
  first_eq : w.first = first
  total_eq : w.total = max total 1
  nodup : w.seen.Nodup
  mem_seen_iff : ∀ seq, seq ∈ w.seen ↔ w.contains seq = true ∧ seq ∈ recorded ops

theorem tells_start (first total : Int) : (start first total).Tells first total [] :=
  ⟨rfl, rfl, List.nodup_nil, fun seq => by simp [start, recorded]⟩

/-- After one more operation a window tells of it too. -/
theorem Tells.perform (h : w.Tells first total ops) (op : Operation) :
    (w.perform op).Tells first total (ops ++ [op]) where
  first_eq := (w.range_perform op).1.trans h.first_eq
  total_eq := (w.range_perform op).2.trans h.total_eq
  nodup := nodup_seen_perform h.nodup op
  mem_seen_iff := by
    intro seq
    rw [contains_perform]
    cases op with
    | record seq' =>
        rw [mem_seen_record_iff, recorded_record, List.mem_cons, h.mem_seen_iff]
        constructor
        · -- What is out of range is not recorded, and neither is it contained.
          rintro (⟨rfl, hin⟩ | ⟨hin, hrecorded⟩)
          · exact ⟨hin, .inl rfl⟩
          · exact ⟨hin, .inr hrecorded⟩
        · rintro ⟨hin, rfl | hrecorded⟩
          · exact .inl ⟨rfl, hin⟩
          · exact .inr ⟨hin, hrecorded⟩
    | reset => simp [recorded_reset, Window.perform, reset]

/-- A window tells of everything that has been done to it. -/
theorem tells_performAll (first total : Int) (ops : List Operation) :
    ((start first total).performAll ops).Tells first total ops := by
  -- The operation that came last decides what counts, so the induction goes from the end.
  induction ops using List.reverseRecOn with
  | nil => exact tells_start first total
  | append_singleton ops op ih =>
      rw [performAll, List.foldl_append]
      exact ih.perform op

/-! ### What such a window says -/

section

variable (h : w.Tells first total ops)
include h

theorem Tells.contains_iff_range :
    w.contains seq = true ↔ first ≤ seq ∧ seq < first + max total 1 := by
  rw [contains_iff, last, h.first_eq, h.total_eq]
  omega

theorem Tells.mem_missing_iff : seq ∈ w.missing ↔
    first ≤ seq ∧ seq < first + max total 1 ∧ seq ∉ recorded ops := by
  rw [missing, List.mem_filter, decide_eq_true_iff, h.mem_seen_iff, mem_intRange,
    h.contains_iff_range, h.first_eq, h.total_eq, and_assoc]
  exact and_congr_right fun hlow => and_congr_right fun hhigh =>
    not_congr (and_iff_right ⟨hlow, hhigh⟩)

/-- What has been seen and what is missing make up the transfer. -/
theorem Tells.count_add_length_missing : (w.count : Int) + w.missing.length = max total 1 := by
  have hnodup := nodup_intRange w.first (w.first + w.total)
  -- What has been seen is the other part of the range, in another order.
  have hseen : w.seen.Perm
      ((intRange w.first (w.first + w.total)).filter (fun seq => seq ∈ w.seen)) := by
    refine (List.perm_ext_iff_of_nodup h.nodup (hnodup.filter _)).2 (fun seq => ?_)
    rw [List.mem_filter, decide_eq_true_iff, mem_intRange]
    refine ⟨fun hseen => ⟨?_, hseen⟩, And.right⟩
    have hin := contains_iff.1 ((h.mem_seen_iff seq).1 hseen).1
    rw [last] at hin
    omega
  have hparts := List.length_eq_length_filter_add (l := intRange w.first (w.first + w.total))
    (fun seq => seq ∈ w.seen)
  rw [length_intRange, ← hseen.length_eq] at hparts
  simp only [← decide_not] at hparts
  rw [missing, count, ← h.total_eq]
  have htotal := h.total_eq
  omega

/-- A transfer is complete when nothing is missing. -/
theorem Tells.isComplete_iff : w.isComplete = true ↔ w.missing = [] := by
  have hall := h.count_add_length_missing
  rw [isComplete, decide_eq_true_iff, h.total_eq, ← List.length_eq_zero_iff]
  omega

/-- The highest number seen is the highest one of the transfer that has been
    recorded. -/
theorem Tells.highest?_eq_some_iff : w.highest? = some highest ↔
    (w.contains highest = true ∧ highest ∈ recorded ops) ∧
      ∀ seq, w.contains seq = true → seq ∈ recorded ops → seq ≤ highest := by
  rw [highest?, List.max?_eq_some_iff, h.mem_seen_iff]
  simp only [h.mem_seen_iff, and_imp]

/-- Gaps are what is missing below the highest number seen. -/
theorem Tells.gaps_eq (hhighest : w.highest? = some highest) :
    w.gaps = w.missing.filter (· < highest) := by
  have hin := contains_iff.1 (h.highest?_eq_some_iff.1 hhighest).1.1
  rw [last] at hin
  -- Both lists are in order, so it is enough that they have the same numbers.
  rw [gaps, hhighest]
  refine ((pairwise_intRange _ _).filter _).eq_of_mem_iff
    (w.misses_missing.increasing.filter _) (fun {seq} => ?_)
  rw [List.mem_filter, List.mem_filter, missing, List.mem_filter, mem_intRange, mem_intRange,
    decide_eq_true_iff, decide_eq_true_iff]
  constructor
  · rintro ⟨⟨hlow, hlt⟩, hunseen⟩
    exact ⟨⟨⟨hlow, by omega⟩, hunseen⟩, hlt⟩
  · rintro ⟨⟨⟨hlow, -⟩, hunseen⟩, hlt⟩
    exact ⟨⟨hlow, hlt⟩, hunseen⟩

end

/-- Whatever has been recorded in a window, of its transfer or not, and
    whenever everything was forgotten in between: what has been seen and what is
    missing add up to the total, or to one if that is less. Missing are, in
    order, the numbers of the transfer that have not been recorded since. The
    highest number is the highest of those that have, and the gaps are what is
    missing below it; without one there are none. A number is new exactly if it
    is missing, and the transfer is complete exactly if nothing is missing. -/
theorem history_exact (first total : Int) (ops : List Operation) :
    let w := (start first total).performAll ops
    (w.count : Int) + w.missing.length = max total 1 ∧
    w.missing.Pairwise (· < ·) ∧
    (∀ seq, seq ∈ w.missing ↔
      first ≤ seq ∧ seq ≤ first + max total 1 - 1 ∧ seq ∉ recorded ops) ∧
    (∀ highest, w.highest? = some highest ↔
      (first ≤ highest ∧ highest ≤ first + max total 1 - 1 ∧ highest ∈ recorded ops) ∧
        ∀ seq, first ≤ seq → seq ≤ first + max total 1 - 1 → seq ∈ recorded ops →
          seq ≤ highest) ∧
    (∀ highest, w.highest? = some highest → w.gaps = w.missing.filter (· < highest)) ∧
    (w.count = 0 → w.highest? = none ∧ w.gaps = []) ∧
    (∀ seq, (w.record? seq).isSome = true ↔ seq ∈ w.missing) ∧
    (w.isComplete = true ↔ w.missing = []) := by
  intro w
  have h : w.Tells first total ops := tells_performAll first total ops
  have hlast : ∀ seq, seq ≤ first + max total 1 - 1 ↔ seq < first + max total 1 :=
    fun seq => Int.le_sub_one_iff
  simp only [hlast]
  refine ⟨h.count_add_length_missing, w.misses_missing.increasing, fun seq => h.mem_missing_iff,
    fun highest => ?_, fun highest => h.gaps_eq, fun hcount => ?_, fun seq => isSome_record?_iff,
    h.isComplete_iff⟩
  · rw [h.highest?_eq_some_iff]
    simp only [h.contains_iff_range, and_assoc, and_imp]
  · have hseen : w.seen = [] := List.length_eq_zero_iff.1 hcount
    have hnone : w.highest? = none := by
      rw [highest?, hseen]
      rfl
    rw [gaps, hnone]
    exact ⟨rfl, rfl⟩

end Window

end RoverDispatch
