import Mathlib.Data.List.Perm.Subperm
import RoverDispatch.Table

/-!
# Keys and Values of Tables

What the size and the values of a table say about its bindings.

A table lists its bindings by increasing key, so its keys are all different
and its size counts them. When the keys are the numbers below a bound, the
table is a list in disguise: the bindings that are there agree with the list
at their places, and the table has as many bindings as the list has places
exactly when none is missing. Then its values are the list, in order. This is
how the parts of a field are counted and put together.

## Main definitions

* `Table.ofIndexed`: A list as a table from places to entries.

## Theorems

* `Table.nodup_keys`: The keys are all different.
* `Table.pairwise_keys`: Keys that are numbers are listed in order.
* `Table.mem_keys_iff`: A key is listed exactly when it is bound.
* `Table.find?_ofIndexed`: What the table of a list answers.
* `Table.values_eq_of_find?`: A table that answers like a list has its values.
* `Table.size_eq_iff`: Keys below a bound are as many as it says when none is
  left out.
* `Table.size_eq_length_iff`: A table within a list is full exactly when it
  answers like the list.
* `Table.contains_insert_of_contains`: A key that is bound already.
* `Table.of_find?_insert`, `Table.of_find?_erase`: Where an answer comes from.
* `Table.find?_foldl_insert`: Keys that are bound to one value after the other.
* `Table.insert_eq_self`: A binding that is there already.
* `Table.insert_insert`, `Table.erase_insert`: A binding that is replaced or
  forgotten.
* `Table.size_insert`: A binding of a new key.
* `Table.insert_comm`: Bindings of different keys.
* `Table.modify_eq_insert`, `Table.modify_eq_self`: A change of a value is a
  new binding, or nothing.
-/

namespace RoverDispatch

namespace Table

variable {κ α : Type} [Ord κ]

@[simp]
theorem length_keys (t : Table κ α) : t.keys.length = t.size := by
  simp only [keys, size, List.length_map]

/-- The keys are all different. -/
theorem nodup_keys [DecidableEq κ] [Std.LawfulEqOrd κ] (t : Table κ α) : t.keys.Nodup := by
  refine List.pairwise_map.2 (t.sorted.imp (fun {a b} hlt heq => ?_))
  rw [heq] at hlt
  exact compare_self_ne_lt b.1 hlt

/-- Keys that are numbers are listed in order. -/
theorem pairwise_keys (t : Table Int α) : t.keys.Pairwise (· < ·) := by
  refine List.pairwise_map.2 (t.sorted.imp (fun {a b} hlt => ?_))
  exact Int.compare_eq_lt.1 hlt

/-- A key is listed exactly when it is bound. -/
theorem mem_keys_iff [DecidableEq κ] [Std.LawfulEqOrd κ] {t : Table κ α} {k : κ} :
    k ∈ t.keys ↔ (t.find? k).isSome := by
  simp only [keys, List.mem_map, Prod.exists, exists_and_right, exists_eq_right,
    Option.isSome_iff_exists, mem_entries_iff]

/-- A list as a table from places to entries. -/
def ofIndexed (l : List α) : Table Nat α :=
  ⟨l.mapIdx (fun i v => (i, v)), by
    refine List.pairwise_iff_getElem.2 (fun i j hi hj hij => ?_)
    simpa only [List.getElem_mapIdx] using Nat.compare_eq_lt.2 hij⟩

theorem find?_ofIndexed (l : List α) (i : Nat) : (ofIndexed l).find? i = l[i]? := by
  refine Option.ext (fun v => ?_)
  rw [← mem_entries_iff, ofIndexed, List.mem_mapIdx, List.getElem?_eq_some_iff]
  constructor
  · rintro ⟨j, hj, he⟩
    cases he
    exact ⟨hj, rfl⟩
  · rintro ⟨hi, rfl⟩
    exact ⟨i, hi, rfl⟩

/-- A table that answers like a list has its values. -/
theorem values_eq_of_find? {t : Table Nat α} {l : List α} (h : ∀ i, t.find? i = l[i]?) :
    t.values = l := by
  have ht : t = ofIndexed l := ext_find? (fun i => by rw [h, find?_ofIndexed])
  rw [ht, values, ofIndexed]
  exact List.ext_getElem (by simp) (by simp)

/-- Keys below a bound are as many as the bound says exactly when each number
    below it is a key. -/
theorem size_eq_iff {t : Table Nat α} {n : Nat} (h : ∀ k ∈ t.keys, k < n) :
    t.size = n ↔ ∀ i < n, i ∈ t.keys := by
  have hsub : t.keys ⊆ List.range n := fun k hk => List.mem_range.2 (h k hk)
  rw [← length_keys]
  constructor
  · intro hsize i hi
    -- As many different keys below the bound as there are numbers below it.
    have hperm : t.keys.Perm (List.range n) :=
      (List.subperm_of_subset t.nodup_keys hsub).perm_of_length_le (by simp [hsize])
    exact hperm.mem_iff.2 (List.mem_range.2 hi)
  · intro hall
    have hperm : t.keys.Perm (List.range n) :=
      (List.perm_ext_iff_of_nodup t.nodup_keys List.nodup_range).2
        (fun i => ⟨fun hi => hsub hi, fun hi => hall i (List.mem_range.1 hi)⟩)
    rw [hperm.length_eq, List.length_range]

/-- A table whose bindings agree with a list has as many of them as the list
    has places exactly when none of its places is missing. -/
theorem size_eq_length_iff {t : Table Nat α} {l : List α}
    (h : ∀ i v, t.find? i = some v → l[i]? = some v) :
    t.size = l.length ↔ ∀ i, t.find? i = l[i]? := by
  have hbound : ∀ k ∈ t.keys, k < l.length := by
    intro k hk
    rcases Option.isSome_iff_exists.1 (mem_keys_iff.1 hk) with ⟨v, hv⟩
    exact (List.getElem?_eq_some_iff.1 (h k v hv)).1
  -- All keys are below the length, so it is enough to count them.
  rw [size_eq_iff hbound]
  constructor
  · intro hall i
    by_cases hi : i < l.length
    · rcases Option.isSome_iff_exists.1 (mem_keys_iff.1 (hall i hi)) with ⟨v, hv⟩
      rw [hv, h i v hv]
    · rw [List.getElem?_eq_none (Nat.le_of_not_lt hi), ← Option.not_isSome_iff_eq_none,
        ← mem_keys_iff]
      exact fun hk => hi (hbound i hk)
  · intro hfind i hi
    rw [mem_keys_iff, hfind, List.getElem?_eq_getElem hi]
    rfl

section Update

variable [DecidableEq κ] [Std.TransOrd κ] [Std.LawfulEqOrd κ] {t : Table κ α} {k k' : κ} {v : α}
  {f : α → α}

theorem find?_insert_self (t : Table κ α) (k : κ) (v : α) : (t.insert k v).find? k = some v := by
  rw [find?_insert, if_pos rfl]

theorem find?_insert_of_ne (t : Table κ α) (h : k' ≠ k) (v : α) :
    (t.insert k v).find? k' = t.find? k' := by
  rw [find?_insert, if_neg h]

/-- A key that is bound already is no new one. -/
theorem contains_insert_of_contains (h : t.contains k = true) (v : α) (k' : κ) :
    (t.insert k v).contains k' = t.contains k' := by
  rw [contains, find?_insert]
  by_cases hk : k' = k
  · rw [if_pos hk, hk, h]
    rfl
  · rw [if_neg hk]
    rfl

/-- An answer is the new binding or an older one of another key. -/
theorem of_find?_insert {w : α} (h : (t.insert k v).find? k' = some w) :
    k' = k ∧ v = w ∨ k' ≠ k ∧ t.find? k' = some w := by
  rw [find?_insert] at h
  by_cases hk : k' = k
  · rw [if_pos hk] at h
    exact .inl ⟨hk, Option.some.inj h⟩
  · rw [if_neg hk] at h
    exact .inr ⟨hk, h⟩

omit [Std.TransOrd κ] [Std.LawfulEqOrd κ] in
/-- An answer after a removal is an older one of another key. -/
theorem of_find?_erase {w : α} (h : (t.erase k).find? k' = some w) :
    k' ≠ k ∧ t.find? k' = some w := by
  rw [find?_erase] at h
  by_cases hk : k' = k
  · rw [if_pos hk] at h
    cases h
  · rw [if_neg hk] at h
    exact ⟨hk, h⟩

/-- Keys that are bound to one value after the other. -/
theorem find?_foldl_insert (t : Table κ α) (keys : List κ) (v : α) (k' : κ) :
    (keys.foldl (fun t k => t.insert k v) t).find? k' =
      if k' ∈ keys then some v else t.find? k' := by
  induction keys generalizing t with
  | nil => simp only [List.foldl_nil, List.not_mem_nil, if_false]
  | cons k keys ih =>
      rw [List.foldl_cons, ih, find?_insert]
      by_cases hk : k' ∈ keys
      · simp only [hk, if_true, List.mem_cons, or_true]
      · simp only [hk, if_false, List.mem_cons, or_false]

/-- A key that is bound to a value can be bound to it again. -/
theorem insert_eq_self (h : t.find? k = some v) : t.insert k v = t := by
  refine ext_find? (fun k' => ?_)
  by_cases hk : k' = k
  · rw [hk, find?_insert_self, h]
  · rw [find?_insert_of_ne t hk]

/-- What a key is bound to last counts. -/
theorem insert_insert (t : Table κ α) (k : κ) (v v' : α) :
    (t.insert k v).insert k v' = t.insert k v' := by
  refine ext_find? (fun k' => ?_)
  by_cases hk : k' = k
  · rw [hk, find?_insert_self, find?_insert_self]
  · rw [find?_insert_of_ne _ hk, find?_insert_of_ne t hk, find?_insert_of_ne t hk]

/-- A new key that is forgotten again leaves no trace. -/
theorem erase_insert (h : t.find? k = none) (v : α) : (t.insert k v).erase k = t := by
  refine ext_find? (fun k' => ?_)
  rw [find?_erase]
  by_cases hk : k' = k
  · rw [if_pos hk, hk, h]
  · rw [if_neg hk, find?_insert_of_ne t hk]

/-- A new key makes the table larger by one. -/
theorem size_insert (h : t.find? k = none) (v : α) : (t.insert k v).size = t.size + 1 := by
  have hlength : ∀ l : List (κ × α), lookup k l = none →
      (insertEntry k v l).length = l.length + 1 := by
    intro l hl
    induction l with
    | nil => rfl
    | cons e l ih =>
        rw [lookup] at hl
        split at hl
        · cases hl
        · rename_i hk
          rw [insertEntry]
          split
          · rfl
          · -- The key is not there, so nothing is replaced.
            rename_i heq
            exact absurd (Std.LawfulEqCmp.eq_of_compare heq) hk
          · rw [List.length_cons, ih hl, List.length_cons]
  exact hlength t.entries h

/-- Different keys can be bound in either order. -/
theorem insert_comm (t : Table κ α) {v' : α} (h : k ≠ k') :
    (t.insert k v).insert k' v' = (t.insert k' v').insert k v := by
  refine ext_find? (fun k'' => ?_)
  by_cases hk : k'' = k
  · rw [hk, find?_insert_of_ne _ h, find?_insert_self, find?_insert_self]
  · simp only [find?_insert, if_neg hk]

/-- A value is changed by binding its key to the new one. -/
theorem modify_eq_insert (h : t.find? k = some v) : t.modify k f = t.insert k (f v) := by
  refine ext_find? (fun k' => ?_)
  by_cases hk : k' = k
  · rw [hk, find?_insert_self, find?_modify, if_pos rfl, h, Option.map_some]
  · rw [find?_insert_of_ne t hk, find?_modify, if_neg hk]

/-- A change that leaves the value as it is changes nothing. -/
theorem modify_eq_self (h : ∀ v, t.find? k = some v → f v = v) : t.modify k f = t := by
  refine ext_find? (fun k' => ?_)
  rw [find?_modify]
  by_cases hk : k' = k
  · rw [if_pos hk, hk]
    cases hfind : t.find? k with
    | none => rfl
    | some v => rw [Option.map_some, h v hfind]
  · rw [if_neg hk]

end Update

end Table

end RoverDispatch
