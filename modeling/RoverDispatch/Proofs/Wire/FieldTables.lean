import Mathlib
import RoverDispatch.Proofs.Wire.FieldRuns
import RoverDispatch.Wire.FieldTable

/-!
# Tables of Fields

What a table answers is what the fields it was filled from said last.

A field is bound under its name, and a later one of the same name takes its
place. So the table of a list of fields answers for a name with the data of the
last field of that name, whatever stands between, in front or behind. This
describes the table without the order in which it was filled, and an answer can
be traced to the field that gave it.

Only whole fields are bound. A list of them always makes a table, and otherwise
the first part of a field in the list is what the table is refused for.

## Main definitions

* `lastData?`: The data of the last field of a name.

## Theorems

* `lastData?_append`: The fields behind have the last word.
* `lastData?_eq_none_iff`: A name without data is the name of no field.
* `exists_of_lastData?`: Data comes from a field.
* `FieldTable.find?_ofFields`: What the table of a list answers.
* `FieldTable.exists_ofFields`: Whole fields make a table.
* `FieldTable.ofFields_of_split`: The first part of a field is refused.
-/

namespace RoverDispatch

section LastData

variable {fields more : List Field} {name : String}

/-- The data of the last field of a name. -/
def lastData? (fields : List Field) (name : String) : Option Bytes :=
  ((fields.filter (fun f => f.name = name)).getLast?).map Field.data

theorem lastData?_append (fields more : List Field) (name : String) :
    lastData? (fields ++ more) name = (lastData? more name).or (lastData? fields name) := by
  rw [lastData?, List.filter_append, List.getLast?_append, lastData?, lastData?]
  cases (more.filter (fun f => f.name = name)).getLast? <;> rfl

/-- A name has no data when no field has it. -/
theorem lastData?_eq_none_iff : lastData? fields name = none ↔ ∀ f ∈ fields, f.name ≠ name := by
  rw [lastData?, Option.map_eq_none_iff, List.getLast?_eq_none_iff, List.filter_eq_nil_iff]
  simp only [decide_eq_true_eq, ne_eq]

/-- The last data of a name is the data of a field of that name. -/
theorem exists_of_lastData? {data : Bytes} (h : lastData? fields name = some data) :
    ∃ f ∈ fields, f.name = name ∧ f.data = data := by
  rcases Option.map_eq_some_iff.1 h with ⟨f, hlast, hdata⟩
  have hf := List.mem_filter.1 (List.mem_of_getLast? hlast)
  exact ⟨f, hf.1, of_decide_eq_true hf.2, hdata⟩

theorem lastData?_singleton (f : Field) (name : String) :
    lastData? [f] name = if f.name = name then some f.data else none := by
  by_cases h : f.name = name
  · rw [lastData?, List.filter_singleton, decide_eq_true h, if_pos h]
    rfl
  · rw [if_neg h, lastData?_eq_none_iff]
    exact List.forall_mem_singleton.2 h

theorem lastData?_cons (f : Field) (fields : List Field) (name : String) :
    lastData? (f :: fields) name =
      (lastData? fields name).or (if f.name = name then some f.data else none) := by
  rw [← List.singleton_append, lastData?_append, lastData?_singleton]

end LastData

/-! ### Tables of lists -/

namespace FieldTable

variable {fields before after : List Field} {t : FieldTable} {f : Field}

theorem ofFields_concat (fields : List Field) (f : Field) :
    ofFields (fields ++ [f]) = ofFields fields >>= (add · f) := by
  rw [ofFields, List.foldlM_append]
  cases h : fields.foldlM add ∅ <;> simp [ofFields, h]

/-- What the table of a list answers is the data of the last field of a
    name. -/
theorem find?_ofFields (h : ofFields fields = .ok t) (name : String) :
    t.find? name = lastData? fields name := by
  induction fields using List.reverseRecOn generalizing t with
  | nil =>
      cases h
      rfl
  | append_singleton fields f ih =>
      rw [ofFields_concat] at h
      rcases exists_of_bind_eq_ok h with ⟨u, hu, hadd⟩
      rw [lastData?_append, lastData?_singleton, ← ih hu]
      rw [add] at hadd
      split at hadd
      · cases hadd
      · cases hadd
        rw [Table.find?_insert]
        -- The last field under a name wins, as the last insertion does.
        by_cases hname : name = f.name
        · rw [if_pos hname, if_pos hname.symm, Option.some_or]
        · rw [if_neg hname, if_neg (Ne.symm hname), Option.none_or]

/-- Whole fields make a table. -/
theorem exists_ofFields (h : ∀ f ∈ fields, f.isSplit = false) : ∃ t, ofFields fields = .ok t := by
  induction fields using List.reverseRecOn with
  | nil => exact ⟨∅, rfl⟩
  | append_singleton fields f ih =>
      rcases ih (fun g hg => h g (List.mem_append_left _ hg)) with ⟨t, ht⟩
      have hf : f.isSplit = false := h f (List.mem_append_right _ (List.mem_singleton_self f))
      refine ⟨t.insert f.name f.data, ?_⟩
      rw [ofFields_concat, ht]
      simp only [bind, Except.bind, add, hf, Bool.false_eq_true, if_false]

/-- The first part of a field in a list is refused. -/
theorem ofFields_of_split (hbefore : ∀ g ∈ before, g.isSplit = false) (hf : f.isSplit = true)
    (after : List Field) :
    ofFields (before ++ f :: after) = .error (.incompleteField f.name 1 f.total) := by
  rcases exists_ofFields hbefore with ⟨t, ht⟩
  rw [ofFields] at ht ⊢
  rw [List.foldlM_append, ht]
  simp only [bind, Except.bind, List.foldlM_cons, add, hf, if_true]

end FieldTable

end RoverDispatch
