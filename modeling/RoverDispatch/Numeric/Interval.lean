/-!
# Intervals

The whole numbers between two bounds.

## Main definitions

* `intRange`: The numbers from a lower bound up to an upper one.

## Theorems

* `mem_intRange`: Which numbers these are.
-/

namespace RoverDispatch

/-- The whole numbers from `low` up to but not including `high`. -/
def intRange (low high : Int) : List Int :=
  (List.range (high - low).toNat).map (fun i : Nat => low + i)

theorem mem_intRange {low high n : Int} : n ∈ intRange low high ↔ low ≤ n ∧ n < high := by
  simp only [intRange, List.mem_map, List.mem_range]
  constructor
  · rintro ⟨i, hi, rfl⟩
    omega
  · rintro ⟨hl, hh⟩
    exact ⟨(n - low).toNat, by omega, by omega⟩

end RoverDispatch
