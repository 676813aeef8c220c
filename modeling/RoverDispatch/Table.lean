/-!
# Ordered Tables

Finite maps whose representation is their meaning.

Rovers, missions, sessions, received parts and pending requests are all kept
by key, and what they answer with is read in the order of the keys. A table
here is the list of its bindings with strictly increasing keys. The order is
a field of the type rather than a convention of its users, so two tables that
answer every lookup alike are equal, and a statement that an operation leaves
the other records alone is an equation between tables.

Lookup is by equality and needs no order; insertion is by comparison and
keeps it. That split is what lets a lookup be computed without knowing that
the list is sorted.

## Main definitions

* `Table`: Bindings with strictly increasing keys.
* `Table.find?`: The value bound to a key.
* `Table.insert`: Binding a key, replacing what it was bound to.
* `Table.erase`: Forgetting a key.
* `Table.modify`: Changing the value of a key that is bound.
* `Table.mapValues`: Changing every value.

## Theorems

* `Table.find?_insert`: What a lookup answers after an insertion.
* `Table.find?_erase`: What a lookup answers after a removal.
* `Table.find?_modify`: What a lookup answers after a change.
* `Table.find?_mapValues`: What a lookup answers after changing every value.
* `Table.mem_entries_iff`: A binding is listed exactly when a lookup finds it.
* `Table.ext_find?`: Tables that answer every lookup alike are equal.
-/

namespace RoverDispatch

/-- Bindings listed with strictly increasing keys. -/
structure Table (κ : Type) (α : Type) [Ord κ] where
  entries : List (κ × α)
  sorted : entries.Pairwise (fun a b => compare a.1 b.1 = .lt)

namespace Table

variable {κ α β : Type}

/-! ### Lookup in a list of bindings -/

/-- The first value bound to a key in a list of bindings. -/
def lookup [DecidableEq κ] (k : κ) : List (κ × α) → Option α
  | [] => none
  | (k', v) :: rest => if k = k' then some v else lookup k rest

theorem mem_of_lookup [DecidableEq κ] {k : κ} {v : α} {l : List (κ × α)}
    (h : lookup k l = some v) : (k, v) ∈ l := by
  induction l with
  | nil => cases h
  | cons b l ih =>
      rcases b with ⟨c, w⟩
      simp only [lookup] at h
      split at h
      · rename_i hk
        cases h
        exact hk ▸ List.mem_cons_self ..
      · exact List.mem_cons_of_mem _ (ih h)

variable [Ord κ]

theorem compare_self_ne_lt [Std.LawfulEqOrd κ] (k : κ) : compare k k ≠ .lt := by
  rw [Std.compare_self]
  exact nofun

theorem lookup_eq_none_of_lt [DecidableEq κ] [Std.LawfulEqOrd κ] {k : κ} {l : List (κ × α)}
    (h : ∀ e ∈ l, compare k e.1 = .lt) : lookup k l = none := by
  induction l with
  | nil => rfl
  | cons e l ih =>
      have hne : k ≠ e.1 := fun he =>
        compare_self_ne_lt e.1 (by simpa only [he] using h e (List.mem_cons_self ..))
      simp only [lookup, hne, if_false]
      exact ih (fun e' he' => h e' (List.mem_cons_of_mem _ he'))

theorem lookup_of_mem [DecidableEq κ] [Std.LawfulEqOrd κ] {k : κ} {v : α} {l : List (κ × α)}
    (hl : l.Pairwise (fun a b => compare a.1 b.1 = .lt)) (h : (k, v) ∈ l) :
    lookup k l = some v := by
  induction l with
  | nil => cases h
  | cons b l ih =>
      rcases List.mem_cons.1 h with rfl | h
      · simp only [lookup, if_true]
      · have hlt := List.rel_of_pairwise_cons hl h
        have hne : k ≠ b.1 := fun he => compare_self_ne_lt b.1 (by simpa only [he] using hlt)
        simp only [lookup, hne, if_false]
        exact ih hl.of_cons h

theorem eq_of_lookup_eq [DecidableEq κ] [Std.TransOrd κ] [Std.LawfulEqOrd κ]
    {l m : List (κ × α)}
    (hl : l.Pairwise (fun a b => compare a.1 b.1 = .lt))
    (hm : m.Pairwise (fun a b => compare a.1 b.1 = .lt))
    (h : ∀ k, lookup k l = lookup k m) : l = m := by
  induction l generalizing m with
  | nil =>
      cases m with
      | nil => rfl
      | cons b m => simpa [lookup] using h b.1
  | cons a l ih =>
      cases m with
      | nil => simpa [lookup] using h a.1
      | cons b m =>
          rcases a with ⟨ka, va⟩
          rcases b with ⟨kb, vb⟩
          -- The smallest keys agree, since each is bound on the other side too.
          have ha : (ka, va) ∈ (kb, vb) :: m :=
            mem_of_lookup (by rw [← h ka]; simp [lookup])
          have hb : (kb, vb) ∈ (ka, va) :: l :=
            mem_of_lookup (by rw [h kb]; simp [lookup])
          have hab : (ka, va) = (kb, vb) := by
            rcases List.mem_cons.1 ha with e | ha
            · exact e
            · rcases List.mem_cons.1 hb with e | hb
              · exact e.symm
              · exact absurd (Std.TransCmp.lt_trans (List.rel_of_pairwise_cons hm ha)
                  (List.rel_of_pairwise_cons hl hb)) (compare_self_ne_lt kb)
          cases hab
          refine congrArg _ (ih hl.of_cons hm.of_cons (fun k => ?_))
          by_cases hk : k = ka
          · subst hk
            rw [lookup_eq_none_of_lt (fun e he => List.rel_of_pairwise_cons hl he),
              lookup_eq_none_of_lt (fun e he => List.rel_of_pairwise_cons hm he)]
          · simpa only [lookup, hk, if_false] using h k

/-! ### Tables -/

@[ext]
theorem ext {s t : Table κ α} (h : s.entries = t.entries) : s = t := by
  cases s
  cases t
  cases h
  rfl

instance [DecidableEq κ] [DecidableEq α] : DecidableEq (Table κ α) := fun s t =>
  if h : s.entries = t.entries then isTrue (ext h) else isFalse (fun e => h (e ▸ rfl))

/-- The table without bindings. -/
def empty : Table κ α := ⟨[], List.Pairwise.nil⟩

instance : EmptyCollection (Table κ α) := ⟨empty⟩

instance : Inhabited (Table κ α) := ⟨empty⟩

/-- The number of keys that are bound. -/
def size (t : Table κ α) : Nat := t.entries.length

/-- Whether no key is bound. -/
def isEmpty (t : Table κ α) : Bool := t.entries.isEmpty

/-- The bound keys, increasing. -/
def keys (t : Table κ α) : List κ := t.entries.map Prod.fst

/-- The values, in the order of their keys. -/
def values (t : Table κ α) : List α := t.entries.map Prod.snd

/-- The value bound to a key. -/
def find? [DecidableEq κ] (t : Table κ α) (k : κ) : Option α := lookup k t.entries

/-- Whether a key is bound. -/
def contains [DecidableEq κ] (t : Table κ α) (k : κ) : Bool := (t.find? k).isSome

/-- Bind a key in a list of bindings with increasing keys. -/
def insertEntry (k : κ) (v : α) : List (κ × α) → List (κ × α)
  | [] => [(k, v)]
  | (k', v') :: rest =>
    match compare k k' with
    | .lt => (k, v) :: (k', v') :: rest
    | .eq => (k, v) :: rest
    | .gt => (k', v') :: insertEntry k v rest

theorem mem_insertEntry {k : κ} {v : α} {e : κ × α} {l : List (κ × α)}
    (h : e ∈ insertEntry k v l) : e = (k, v) ∨ e ∈ l := by
  induction l with
  | nil => exact Or.inl (List.mem_singleton.1 h)
  | cons b l ih =>
      rcases b with ⟨k', v'⟩
      simp only [insertEntry] at h
      -- The entry goes before this one, takes its place, or goes somewhere after it.
      split at h
      · exact List.mem_cons.1 h
      · rcases List.mem_cons.1 h with h | h
        · exact Or.inl h
        · exact Or.inr (List.mem_cons_of_mem _ h)
      · rcases List.mem_cons.1 h with h | h
        · exact Or.inr (h ▸ List.mem_cons_self ..)
        · exact (ih h).imp_right (List.mem_cons_of_mem _)

variable [Std.TransOrd κ] [Std.LawfulEqOrd κ]

theorem sorted_insertEntry (k : κ) (v : α) {l : List (κ × α)}
    (h : l.Pairwise (fun a b => compare a.1 b.1 = .lt)) :
    (insertEntry k v l).Pairwise (fun a b => compare a.1 b.1 = .lt) := by
  induction l with
  | nil => exact List.pairwise_singleton _ _
  | cons b l ih =>
      rcases b with ⟨k', v'⟩
      have hrel : ∀ e ∈ l, compare k' e.1 = .lt := fun e he => List.rel_of_pairwise_cons h he
      simp only [insertEntry]
      split
      · -- The new key is the smallest.
        rename_i hlt
        refine List.Pairwise.cons (fun e he => ?_) h
        rcases List.mem_cons.1 he with rfl | he
        · exact hlt
        · exact Std.TransCmp.lt_trans hlt (hrel e he)
      · -- It is the same key, so the order is as before.
        rename_i heq
        have hk : k = k' := Std.LawfulEqCmp.eq_of_compare heq
        exact List.Pairwise.cons (fun e he => hk ▸ hrel e he) h.of_cons
      · -- It goes further back, and this one stays in front of it.
        rename_i hgt
        refine List.Pairwise.cons (fun e he => ?_) (ih h.of_cons)
        rcases mem_insertEntry he with rfl | he
        · exact Std.OrientedCmp.lt_of_gt hgt
        · exact hrel e he

/-- Bind a key, replacing what it was bound to. -/
def insert (t : Table κ α) (k : κ) (v : α) : Table κ α :=
  ⟨insertEntry k v t.entries, sorted_insertEntry k v t.sorted⟩

/-- The bindings of a list, a later one replacing an earlier one. -/
def ofList (l : List (κ × α)) : Table κ α :=
  l.foldl (fun t e => t.insert e.1 e.2) ∅

omit [Std.TransOrd κ] [Std.LawfulEqOrd κ]

/-- Forget a key. -/
def erase [DecidableEq κ] (t : Table κ α) (k : κ) : Table κ α :=
  ⟨t.entries.filter (fun e => e.1 ≠ k), t.sorted.filter _⟩

/-- Change every value, given its key. -/
def mapValues (f : κ → α → β) (t : Table κ α) : Table κ β :=
  ⟨t.entries.map (fun e => (e.1, f e.1 e.2)), List.Pairwise.map _ (fun _ _ h => h) t.sorted⟩

/-- Change the value of a key, if it is bound. -/
def modify [DecidableEq κ] (t : Table κ α) (k : κ) (f : α → α) : Table κ α :=
  t.mapValues (fun k' v => if k' = k then f v else v)

/-! ### What a lookup answers after an operation -/

variable [DecidableEq κ]

@[simp]
theorem find?_empty (k : κ) : (∅ : Table κ α).find? k = none := rfl

theorem find?_erase (t : Table κ α) (k k' : κ) :
    (t.erase k).find? k' = if k' = k then none else t.find? k' := by
  rcases t with ⟨l, h⟩
  simp only [find?, erase]
  clear h
  induction l with
  | nil => simp [lookup]
  | cons b l ih =>
      rcases b with ⟨c, w⟩
      -- Every entry of the key goes, and a lookup for any other passes it by.
      by_cases hc : c = k
      · by_cases h : k' = k <;> simp_all [lookup]
      · by_cases h : k' = k
        · subst h
          simp only [if_true] at ih
          simpa [lookup, hc, Ne.symm hc] using ih
        · by_cases h' : k' = c <;> simp_all [lookup]

theorem find?_mapValues (f : κ → α → β) (t : Table κ α) (k : κ) :
    (t.mapValues f).find? k = (t.find? k).map (f k) := by
  rcases t with ⟨l, h⟩
  simp only [find?, mapValues]
  clear h
  induction l with
  | nil => rfl
  | cons b l ih =>
      by_cases h : k = b.1
      · subst h
        simp [lookup]
      · simp only [List.map_cons, lookup, h, if_false, ih]

theorem find?_modify (t : Table κ α) (k k' : κ) (f : α → α) :
    (t.modify k f).find? k' = if k' = k then (t.find? k').map f else t.find? k' := by
  rw [modify, find?_mapValues]
  by_cases h : k' = k <;> simp [h]

variable [Std.LawfulEqOrd κ]

/-- A binding is listed exactly when a lookup of its key finds it. -/
theorem mem_entries_iff {t : Table κ α} {k : κ} {v : α} :
    (k, v) ∈ t.entries ↔ t.find? k = some v :=
  ⟨lookup_of_mem t.sorted, mem_of_lookup⟩

theorem lookup_insertEntry (k k' : κ) (v : α) (l : List (κ × α)) :
    lookup k' (insertEntry k v l) = if k' = k then some v else lookup k' l := by
  induction l with
  | nil => rfl
  | cons b l ih =>
      rcases b with ⟨c, w⟩
      simp only [insertEntry]
      split
      · rfl
      · rename_i heq
        have hk : k = c := Std.LawfulEqCmp.eq_of_compare heq
        subst hk
        by_cases h : k' = k <;> simp [lookup, h]
      · -- The entry is farther back, so this one is not under the key.
        rename_i hgt
        have hk : k ≠ c := fun he => by
          rw [he, Std.compare_self] at hgt
          cases hgt
        simp only [lookup, ih]
        by_cases h : k' = k
        · simp [h, hk]
        · simp [h]

variable [Std.TransOrd κ]

theorem find?_insert (t : Table κ α) (k k' : κ) (v : α) :
    (t.insert k v).find? k' = if k' = k then some v else t.find? k' :=
  lookup_insertEntry k k' v t.entries

/-- Tables that answer every lookup alike are equal. -/
theorem ext_find? {s t : Table κ α} (h : ∀ k, s.find? k = t.find? k) : s = t :=
  ext (eq_of_lookup_eq s.sorted t.sorted h)

end Table

end RoverDispatch
