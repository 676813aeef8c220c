import RoverDispatch.Proofs.Transfer.Fragments

/-!
# The Fewest Fragments

Why packing greedily is as good as any packing.

The items of a transfer can be grouped in many ways, as long as they stay in
their order and no group exceeds the limit. Every group costs a message, so the
number of groups is what counts. Packing never looks ahead, and it is not
obvious that it should not close a fragment earlier to have a better start with
the next items.

Two facts about the fragment that is open show that it should not. Having less
in it never makes the packing of the same items longer, and never saves more
than one fragment. They are proved together: the side that has more closes its
fragment first, and from then on it is the one that has less. Now take any
grouping. Its first group goes into one fragment, perhaps with some items of the
groups behind it, and closing the fragment at the end of the group would not
save more than that one.

## Main definitions

* `Packing`: Items in consecutive groups that fit.

## Theorems

* `length_packOnto_compare`: Packing the same items behind different beginnings.
* `length_pack_append_le`: A group that fits costs one fragment at most.
* `packing_fragments`: Fragments are a packing of the items.
* `fragments_fewest`: No packing of the items has fewer groups than there are
  fragments.
-/

namespace RoverDispatch

/-- A run of items in consecutive groups, none of which is empty or takes more
    bytes than the limit. -/
structure Packing (limit : Nat) (items : List Field) (groups : List (List Field)) : Prop where
  flatten : groups.flatten = items
  nonempty : ∀ group ∈ groups, group ≠ []
  fits : ∀ group ∈ groups, (encodeFields group).length ≤ limit

variable {limit : Nat} {fields current current' items group : List Field}

theorem fieldsLength_pos (h : items ≠ []) : 0 < fieldsLength items := by
  cases items with
  | nil => exact absurd rfl h
  | cons item items =>
      rw [fieldsLength_cons, Field.encodedLength, Field.overhead, Field.fixedOverhead]
      omega

/-! ### Packing the same items behind different beginnings -/

/-- Behind a shorter beginning the same items make no more fragments, and one
    less at most. -/
theorem length_packOnto_compare (h : fieldsLength current ≤ fieldsLength current')
    (items : List Field) :
    (packOnto limit current items).length ≤ (packOnto limit current' items).length ∧
      (packOnto limit current' items).length ≤ (packOnto limit current items).length + 1 := by
  -- Only an empty beginning is as short as an empty one.
  have hne (hempty : current' = []) : current = [] := by
    by_contra hne
    have hpos := fieldsLength_pos hne
    rw [hempty, fieldsLength_nil] at h
    omega
  induction items generalizing current current' with
  | nil =>
      rw [packOnto, packOnto]
      by_cases hempty : current' = []
      · rw [if_pos hempty, if_pos (hne hempty)]
        exact ⟨Nat.le_refl _, Nat.zero_le _⟩
      · rw [if_neg hempty]
        split <;> simp
  | cons item items ih =>
      rw [packOnto, packOnto]
      by_cases hfull' : current' ≠ [] ∧ limit < fieldsLength current' + item.encodedLength
      · rw [if_pos hfull', List.length_cons]
        split
        · rw [List.length_cons]
          omega
        · -- The longer side has just closed a fragment, and is the shorter one from now on.
          have hshort : fieldsLength [item] ≤ fieldsLength (current ++ [item]) := by
            rw [fieldsLength_append]
            omega
          have hrest := ih hshort (by simp)
          omega
      · have hfull : ¬(current ≠ [] ∧ limit < fieldsLength current + item.encodedLength) := by
          rintro ⟨hopen, hlong⟩
          exact hfull' ⟨fun hempty => hopen (hne hempty), by omega⟩
        have hlonger : fieldsLength (current ++ [item]) ≤ fieldsLength (current' ++ [item]) := by
          rw [fieldsLength_append, fieldsLength_append]
          omega
        rw [if_neg hfull', if_neg hfull]
        exact ih hlonger (by simp)

/-! ### Groups that fit -/

/-- A group that fits costs one fragment at most. -/
theorem length_pack_append_le (h : fieldsLength group ≤ limit) (items : List Field) :
    (pack limit (group ++ items)).length ≤ (pack limit items).length + 1 := by
  have hopen : pack limit (group ++ items) = packOnto limit group items := by
    rw [pack, packOnto_append h, List.nil_append]
  rw [hopen]
  exact (length_packOnto_compare (Nat.zero_le _) items).2

/-- No packing has fewer groups than the greedy one. -/
theorem Packing.length_pack_le {groups : List (List Field)} (h : Packing limit items groups) :
    (pack limit items).length ≤ groups.length := by
  rcases h with ⟨rfl, -, hfits⟩
  induction groups with
  | nil => exact Nat.le_refl _
  | cons group groups ih =>
      rcases List.forall_mem_cons.1 hfits with ⟨hgroup, hgroups⟩
      rw [length_encodeFields] at hgroup
      have hrest := ih hgroups
      have hfirst := length_pack_append_le hgroup groups.flatten
      rw [List.flatten_cons, List.length_cons]
      omega

/-! ### Fragments -/

/-- Fragments are a packing of the items of the fields. -/
theorem packing_fragments {frags : List (List Field)} (h : fragments limit fields = .ok frags) :
    ∃ items, List.Forall₂ (fun f parts => f.split limit = .ok parts) fields items ∧
      frags = pack limit items.flatten ∧ Packing limit items.flatten frags := by
  rcases of_fragments_eq_ok h with ⟨items, hsplit, rfl⟩
  refine ⟨items, hsplit, rfl, flatten_pack limit _, fun group hgroup => ?_, fun group hgroup => ?_⟩
  · exact (of_mem_fragments h hgroup).1
  · rw [length_encodeFields]
    exact (of_mem_fragments h hgroup).2

/-- Fragments are as few as can be. The fields are cut into items one by one,
    the fragments are a packing of all these items in their order, and every
    packing of them has at least as many groups as there are fragments. -/
theorem fragments_fewest {limit : Nat} {fields : List Field} {frags : List (List Field)}
    (h : fragments limit fields = .ok frags) :
    ∃ items, List.Forall₂ (fun f parts => f.split limit = .ok parts) fields items ∧
      Packing limit items.flatten frags ∧
      ∀ groups, Packing limit items.flatten groups → frags.length ≤ groups.length := by
  rcases packing_fragments h with ⟨items, hsplit, rfl, hpacking⟩
  exact ⟨items, hsplit, hpacking, fun groups hgroups => hgroups.length_pack_le⟩

/-- Two fields share a fragment, the third one is cut, and what is left of it
    shares a fragment with the last one. -/
theorem fragments_fewest_three :
    let fields : List Field := [⟨"a", [1, 2], 0, 1⟩, ⟨"b", [3, 4], 0, 1⟩,
      ⟨"c", List.replicate 20 5, 0, 1⟩, ⟨"d", [6, 7], 0, 1⟩]
    let frags : List (List Field) := [[⟨"a", [1, 2], 0, 1⟩, ⟨"b", [3, 4], 0, 1⟩],
      [⟨"c", List.replicate 19 5, 0, 2⟩], [⟨"c", [5], 1, 2⟩, ⟨"d", [6, 7], 0, 1⟩]]
    fragments 30 fields = .ok frags ∧
      ∀ groups, Packing 30 frags.flatten groups → 3 ≤ groups.length := by
  intro fields frags
  have hfrags : fragments 30 fields = .ok frags := by decide +kernel
  refine ⟨hfrags, fun groups hgroups => ?_⟩
  rcases fragments_fewest hfrags with ⟨items, -, hpacking, hfewest⟩
  exact hfewest groups (hpacking.flatten ▸ hgroups)

end RoverDispatch
