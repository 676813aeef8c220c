import Mathlib
import RoverDispatch.Transfer.Window

/-!
# Windows That Miss Something

What a receiver may ask for.

A window counts the numbers that it has seen, and finds those that it misses
by going through its range. Both agree as long as it has seen nothing that is
out of range, and that is half of `Window.Unfinished`; the other half says that
the count has not reached the total. Such a window misses something, and it
stays unfinished with every number that does not complete it.

Whatever is asked for is read off the range, so it comes in order, lies in the
window and has not been seen. `Window.Misses` says so of any such list, and
leaving numbers out does no harm. The last number is special: it is not below
any other, so it is never a gap.

## Main definitions

* `Window.Unfinished`: Some numbers have been seen, but not all.
* `Window.Misses`: Numbers that have not been seen, in order.

## Theorems

* `Window.missing_ne_nil`: A window with room misses something.
* `Window.Unfinished.record`: A number that does not complete a window leaves it
  unfinished.
* `Window.misses_missing`, `Window.Unfinished.misses_gaps`: What is asked for.
* `Window.last_not_mem_missing`, `Window.Unfinished.last_not_mem_gaps`: When the
  last number is not asked for.
-/

namespace RoverDispatch

theorem nodup_intRange (low high : Int) : (intRange low high).Nodup :=
  List.nodup_range.map (fun _ _ h => Int.ofNat_inj.1 (Int.add_left_cancel h))

theorem length_intRange (low high : Int) : (intRange low high).length = (high - low).toNat := by
  rw [intRange, List.length_map, List.length_range]

theorem pairwise_intRange (low high : Int) : (intRange low high).Pairwise (· < ·) := by
  rw [intRange, List.pairwise_map]
  refine List.pairwise_lt_range.imp ?_
  intro i j hij
  omega

namespace Window

variable {w w' : Window} {seq : Int}

/-- A window with room misses something. -/
theorem missing_ne_nil {w : Window} (h : (w.count : Int) < w.total) : w.missing ≠ [] := by
  intro hnil
  -- If nothing were missing, every number of the transfer would have been seen.
  have hsub : intRange w.first (w.first + w.total) ⊆ w.seen := by
    intro seq hseq
    by_contra hunseen
    exact List.filter_eq_nil_iff.1 hnil seq hseq (decide_eq_true hunseen)
  have hlen := (List.subperm_of_subset (nodup_intRange _ _) hsub).length_le
  rw [length_intRange] at hlen
  rw [count] at h
  omega

theorem contains_iff : w.contains seq = true ↔ w.first ≤ seq ∧ seq ≤ w.last :=
  decide_eq_true_iff

/-- A number that is recorded belongs to the transfer and is new. -/
theorem record?_eq_some (h : w.record? seq = some w') :
    w.contains seq = true ∧ seq ∉ w.seen ∧ w' = { w with seen := seq :: w.seen } := by
  rw [record?] at h
  split at h
  · rename_i hnew
    cases h
    exact ⟨hnew.1, hnew.2, rfl⟩
  · cases h

/-! ### Unfinished windows -/

/-- Some numbers of the transfer have been seen and no others, but not all. -/
structure Unfinished (w : Window) : Prop where
  within : ∀ seq ∈ w.seen, w.contains seq = true
  room : (w.count : Int) < w.total

theorem Unfinished.total_pos (h : w.Unfinished) : 0 < w.total :=
  Int.lt_of_le_of_lt (Int.natCast_nonneg _) h.room

theorem Unfinished.isComplete_eq (h : w.Unfinished) : w.isComplete = false :=
  decide_eq_false (Int.ne_of_lt h.room)

/-- A window in which nothing has been seen. -/
theorem unfinished_of_seen_eq_nil (hseen : w.seen = []) (htotal : 0 < w.total) : w.Unfinished where
  within := fun _ hs => absurd (hseen ▸ hs) List.not_mem_nil
  room := by
    rw [count, hseen]
    exact htotal

theorem unfinished_start (first total : Int) : (start first total).Unfinished :=
  unfinished_of_seen_eq_nil rfl (Int.lt_of_lt_of_le Int.one_pos (Int.le_max_right _ _))

/-- A number that does not complete a window leaves it unfinished. -/
theorem Unfinished.record (h : w.Unfinished) (hrecord : w.record? seq = some w')
    (hopen : w'.isComplete = false) : w'.Unfinished := by
  rcases record?_eq_some hrecord with ⟨hin, -, rfl⟩
  refine ⟨?_, ?_⟩
  · rintro s hs
    rcases List.mem_cons.1 hs with rfl | hs
    · exact hin
    · exact h.within s hs
  · have hne := of_decide_eq_false hopen
    have hroom := h.room
    simp only [count, List.length_cons] at hne hroom ⊢
    omega

/-- The last number that is not new has been seen. -/
theorem Unfinished.last_mem_seen (h : w.Unfinished) (hknown : w.record? w.last = none) :
    w.last ∈ w.seen := by
  by_contra hunseen
  have htotal := h.total_pos
  have hin : w.contains w.last = true := contains_iff.2 ⟨by rw [last]; omega, Int.le_refl _⟩
  rw [record?, if_pos ⟨hin, hunseen⟩] at hknown
  cases hknown

/-! ### What is asked for -/

/-- Numbers of the transfer that have not been seen, in order. -/
structure Misses (w : Window) (seqs : List Int) : Prop where
  increasing : seqs.Pairwise (· < ·)
  unseen : ∀ seq ∈ seqs, w.contains seq = true ∧ seq ∉ w.seen

theorem Misses.filter {seqs : List Int} (h : w.Misses seqs) (p : Int → Bool) :
    w.Misses (seqs.filter p) :=
  ⟨h.increasing.filter p, fun seq hseq => h.unseen seq (List.mem_filter.1 hseq).1⟩

/-- Numbers that a window misses are not more than it has. -/
theorem Misses.length_le {seqs : List Int} (h : w.Misses seqs) :
    seqs.length ≤ w.total.toNat := by
  have hsub : seqs ⊆ intRange w.first (w.first + w.total) := by
    intro seq hseq
    rcases contains_iff.1 (h.unseen seq hseq).1 with ⟨hlow, hhigh⟩
    rw [last] at hhigh
    exact mem_intRange.2 ⟨hlow, by omega⟩
  have hnodup : seqs.Nodup := h.increasing.imp Int.ne_of_lt
  have hlen := (List.subperm_of_subset hnodup hsub).length_le
  rw [length_intRange] at hlen
  omega

/-- The unseen numbers of a part of the transfer. -/
theorem misses_of_intRange {high : Int} (hhigh : high ≤ w.last + 1) :
    w.Misses ((intRange w.first high).filter (fun seq => seq ∉ w.seen)) where
  increasing := (pairwise_intRange w.first high).filter _
  unseen := by
    intro seq hseq
    rcases List.mem_filter.1 hseq with ⟨hin, hunseen⟩
    rcases mem_intRange.1 hin with ⟨hlow, hlt⟩
    exact ⟨contains_iff.2 ⟨hlow, by omega⟩, of_decide_eq_true hunseen⟩

theorem misses_missing (w : Window) : w.Misses w.missing :=
  misses_of_intRange (by rw [last]; omega)

theorem last_not_mem_missing (hseen : w.last ∈ w.seen) : w.last ∉ w.missing :=
  fun hmem => (w.misses_missing.unseen _ hmem).2 hseen

/-- The highest number seen is one of the transfer. -/
theorem Unfinished.highest_le_last (h : w.Unfinished) {highest : Int}
    (hhighest : w.highest? = some highest) : highest ≤ w.last :=
  (contains_iff.1 (h.within highest (List.max?_mem hhighest))).2

theorem Unfinished.misses_gaps (h : w.Unfinished) : w.Misses w.gaps := by
  rw [gaps]
  split
  · exact ⟨.nil, fun _ hs => absurd hs List.not_mem_nil⟩
  · rename_i highest hhighest
    have hlast := h.highest_le_last hhighest
    exact misses_of_intRange (by omega)

/-- The last number is below no other. -/
theorem Unfinished.last_not_mem_gaps (h : w.Unfinished) : w.last ∉ w.gaps := by
  rw [gaps]
  split
  · exact List.not_mem_nil
  · rename_i highest hhighest
    intro hmem
    have hlt := (mem_intRange.1 (List.mem_filter.1 hmem).1).2
    exact absurd (h.highest_le_last hhighest) (Int.not_le.2 hlt)

end Window

end RoverDispatch
