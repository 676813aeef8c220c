import RoverDispatch.Proofs.Transfer.Reassembly

/-!
# Parts from Anywhere

What an assembly makes of parts that nobody vouches for.

Parts come from the network. Two of them may announce different totals, a part
may come again with other data, and parts of a name may be as many as some
total says without being the ones that it asks for. The only thing taken for
granted is what reading a field has checked, that its part is below its total.

An assembly counts the different parts of a name and compares the number with
the first total announced. That says no more than it should for two reasons.
While all parts of the name announce that total, all of their numbers lie
below it, and then there are as many different ones as the total only if none
is left out: `Table.size_eq_iff`. And once a part has announced another total,
the set of its name stays inconsistent, whatever is added afterwards. Either
reason alone would not do, since the parts 0 and 5 of six are two different
ones, and a part of two may have been announced first.

## Main definitions

* `HasAllParts`: All parts of a name, and no doubt about how many there are.
* `lastPart?`: The field that had the last word about a part.

## Theorems

* `PartSet.consistent_iff`: A set is consistent when all of its parts agree.
* `PartSet.isComplete_iff`: A set is complete when it has all parts.
* `Assembly.isFieldComplete_iff`: A field is whole when it has all parts.
* `Assembly.rebuildField_of_hasAllParts`: Its data is what was said last about
  each part.
* `Assembly.addAll_exact`: The whole account of a name.
-/

namespace RoverDispatch

/-- All parts of a name are there and agree about how many there are. -/
def HasAllParts (added : List Field) (name : String) (n : Nat) : Prop :=
  (∃ f ∈ added, f.name = name) ∧ (∀ f ∈ added, f.name = name → f.total = n) ∧
    ∀ i < n, ∃ f ∈ added, f.name = name ∧ f.part = i

/-- The field that was added last under a name and a part number. -/
def lastPart? (added : List Field) (name : String) (i : Nat) : Option Field :=
  added.reverse.find? (fun f => f.name = name ∧ f.part = i)

namespace PartSet

variable {l : List Field} {s : PartSet}

/-- The total of a set is one that some part announced. -/
theorem exists_total_eq (h : ofFields l = some s) : ∃ f ∈ l, f.total = s.total := by
  cases l with
  | nil => cases h
  | cons f l =>
      cases h
      exact ⟨f, List.mem_cons_self .., by rw [total_foldl, start]⟩

/-- A set is consistent when all of its parts announce its total. -/
theorem consistent_iff (h : ofFields l = some s) :
    s.consistent = true ↔ ∀ f ∈ l, f.total = s.total := by
  cases l with
  | nil => cases h
  | cons f l =>
      cases h
      rw [consistent_foldl, total_foldl]
      simp only [start, Bool.true_and, List.all_eq_true, beq_iff_eq, List.forall_mem_cons, true_and,
        @eq_comm Nat f.total]

/-- A part number is held when a part of that number was added. -/
theorem mem_keys_parts (h : ofFields l = some s) {i : Nat} :
    i ∈ s.parts.keys ↔ ∃ f ∈ l, f.part = i := by
  rw [Table.mem_keys_iff, find?_parts_of_ofFields h, Option.isSome_map, List.find?_isSome]
  simp only [List.mem_reverse, decide_eq_true_eq]

/-- A set is complete when its parts agree and none of them is left out. -/
theorem isComplete_iff (hl : ∀ f ∈ l, f.part < f.total) (h : ofFields l = some s) :
    s.isComplete = true ↔
      (∀ f ∈ l, f.total = s.total) ∧ ∀ i < s.total, ∃ f ∈ l, f.part = i := by
  rw [isComplete, Bool.and_eq_true, consistent_iff h, beq_iff_eq]
  refine and_congr_right fun htotal => ?_
  have hkeys : ∀ k ∈ s.parts.keys, k < s.total := by
    intro k hk
    rcases (mem_keys_parts h).1 hk with ⟨f, hf, rfl⟩
    rw [← htotal f hf]
    exact hl f hf
  rw [Table.size_eq_iff hkeys]
  exact forall₂_congr fun i _ => mem_keys_parts h

end PartSet

namespace Assembly

variable {added others : List Field} {name : String} {n : Nat}

/-- What is added under other names makes no difference. -/
theorem find?_addAll_congr
    (h : others.filter (fun f => f.name = name) = added.filter (fun f => f.name = name)) :
    (addAll ∅ others).find? name = (addAll ∅ added).find? name := by
  rw [find?_addAll, find?_addAll, h]

/-- A field is whole when it has all parts. -/
theorem isFieldComplete_iff (hparts : ∀ f ∈ added, f.part < f.total) :
    (addAll ∅ added).isFieldComplete name = true ↔ ∃ n, HasAllParts added name n := by
  have hl : ∀ f ∈ added.filter (fun f => f.name = name), f.part < f.total :=
    fun f hf => hparts f (List.mem_filter.1 hf).1
  rw [isFieldComplete, find?_addAll]
  cases hs : PartSet.ofFields (added.filter (fun f => f.name = name)) with
  | none =>
      have hnil := List.filter_eq_nil_iff.1 (PartSet.ofFields_eq_none_iff.1 hs)
      simp only [Option.any_none, Bool.false_eq_true, false_iff]
      rintro ⟨n, ⟨f, hf, hname⟩, -⟩
      exact hnil f hf (decide_eq_true hname)
  | some s =>
      rcases PartSet.exists_total_eq hs with ⟨f, hf, htotal⟩
      rw [Option.any_some, PartSet.isComplete_iff hl hs]
      unfold HasAllParts
      simp only [List.mem_filter, decide_eq_true_eq, and_assoc] at hf ⊢
      constructor
      · rintro ⟨hagree, hall⟩
        exact ⟨s.total, ⟨f, hf⟩, fun g hg hname => hagree g ⟨hg, hname⟩, hall⟩
      · -- The total that all parts agree about is the one that the set keeps.
        rintro ⟨n, -, hagree, hall⟩
        have hn : s.total = n := htotal ▸ hagree f hf.1 hf.2
        rw [hn]
        exact ⟨fun g hg => hagree g hg.1 hg.2, hall⟩

/-- A part of a name is held as its last field left it. -/
theorem find?_parts_eq_lastPart? {s : PartSet}
    (hs : PartSet.ofFields (added.filter (fun f => f.name = name)) = some s) (i : Nat) :
    s.parts.find? i = (lastPart? added name i).map Field.data := by
  rw [PartSet.find?_parts_of_ofFields hs, ← List.filter_reverse, List.find?_filter]
  simp only [lastPart?, Bool.decide_and, Bool.decide_eq_true]

/-- The last fields of the parts, in their order. -/
theorem exists_pieces (hparts : ∀ f ∈ added, f.part < f.total) (h : HasAllParts added name n) :
    ∃ pieces : List Field, pieces.length = n ∧ ∀ i, pieces[i]? = lastPart? added name i := by
  rcases h with ⟨-, hagree, hall⟩
  refine ⟨(List.range n).map (fun i => (lastPart? added name i).getD default), by simp,
    fun i => ?_⟩
  by_cases hi : i < n
  · have hsome : (lastPart? added name i).isSome := by
      rcases hall i hi with ⟨f, hf, hname, hpart⟩
      exact List.find?_isSome.2 ⟨f, List.mem_reverse.2 hf, decide_eq_true ⟨hname, hpart⟩⟩
    rcases Option.isSome_iff_exists.1 hsome with ⟨f, hf⟩
    simp only [List.getElem?_map, List.getElem?_range hi, Option.map_some, hf, Option.getD_some]
  · -- No field of the name has a part behind the last one.
    rw [List.getElem?_eq_none (by simpa using hi)]
    refine (List.find?_eq_none.2 (fun f hf hlast => hi ?_)).symm
    rcases of_decide_eq_true hlast with ⟨hname, rfl⟩
    have hadded := List.mem_reverse.1 hf
    rw [← hagree f hadded hname]
    exact hparts f hadded

/-- A field that has all parts is what was said last about each of them, in
    their order. -/
theorem rebuildField_of_hasAllParts (hparts : ∀ f ∈ added, f.part < f.total)
    (h : HasAllParts added name n) :
    ∃ pieces : List Field, pieces.length = n ∧ (∀ i, pieces[i]? = lastPart? added name i) ∧
      (addAll ∅ added).rebuildField name = .ok (pieces.flatMap Field.data) := by
  rcases exists_pieces hparts h with ⟨pieces, hlen, hpieces⟩
  refine ⟨pieces, hlen, hpieces, ?_⟩
  have hwhole := (isFieldComplete_iff hparts).2 ⟨n, h⟩
  rw [isFieldComplete, find?_addAll] at hwhole
  rw [rebuildField, find?_addAll]
  cases hs : PartSet.ofFields (added.filter (fun f => f.name = name)) with
  | none => simp only [hs, Option.any_none, Bool.false_eq_true] at hwhole
  | some s =>
      rw [hs, Option.any_some] at hwhole
      -- The parts are kept under their numbers, so their values come in this order.
      have hvalues : s.parts.values = pieces.map Field.data := by
        refine Table.values_eq_of_find? (fun i => ?_)
        rw [find?_parts_eq_lastPart? hs, ← hpieces, List.getElem?_map]
      simp only [hwhole, if_true, hvalues, List.flatMap_def]

/-- Having all parts is a matter of which fields were added, not of when. -/
theorem hasAllParts_congr (h : ∀ f, f ∈ others ↔ f ∈ added) :
    HasAllParts others name n ↔ HasAllParts added name n := by
  simp only [HasAllParts, h]

/-- The whole account of a name, whatever parts were added. A field is whole
    exactly when something was added under its name, all of it announces one
    total, and every part number below the total occurs. Its data is then the
    concatenation, in the order of the numbers, of what was added last under
    each, and otherwise it is incomplete. Nothing added under other names
    matters, and for being whole the order does not matter either. -/
theorem addAll_exact (hparts : ∀ f ∈ added, f.part < f.total) (name : String) :
    ((addAll ∅ added).isFieldComplete name = true ↔ ∃ n, HasAllParts added name n) ∧
    (∀ n, HasAllParts added name n →
      ∃ pieces : List Field, pieces.length = n ∧ (∀ i, pieces[i]? = lastPart? added name i) ∧
        (addAll ∅ added).rebuildField name = .ok (pieces.flatMap Field.data)) ∧
    ((¬ ∃ n, HasAllParts added name n) →
      ∃ received expected, (addAll ∅ added).rebuildField name =
        .error (.incompleteField name received expected)) ∧
    (∀ others : List Field,
      others.filter (fun f => f.name = name) = added.filter (fun f => f.name = name) →
        (addAll ∅ others).isFieldComplete name = (addAll ∅ added).isFieldComplete name ∧
        (addAll ∅ others).rebuildField name = (addAll ∅ added).rebuildField name) ∧
    ∀ order : List Field, order.Perm added →
      (addAll ∅ order).isFieldComplete name = (addAll ∅ added).isFieldComplete name := by
  refine ⟨isFieldComplete_iff hparts, fun n h => rebuildField_of_hasAllParts hparts h,
    fun h => ?_, fun others hothers => ?_, fun order horder => ?_⟩
  · exact rebuildField_of_not_complete (fun hwhole => h ((isFieldComplete_iff hparts).1 hwhole))
  · simp only [isFieldComplete, rebuildField, find?_addAll_congr hothers, and_self]
  · -- Whether a field is whole only depends on which parts were added.
    have hmem : ∀ f, f ∈ order ↔ f ∈ added := fun f => horder.mem_iff
    rw [Bool.eq_iff_iff, isFieldComplete_iff hparts,
      isFieldComplete_iff (fun f hf => hparts f ((hmem f).1 hf))]
    exact exists_congr fun n => hasAllParts_congr hmem

/-- A part that is added again with other data replaces the first one, and a
    field of another name does not interfere. -/
theorem addAll_exact_repeated_part :
    (addAll ∅ [⟨"a", [3], 1, 2⟩, ⟨"b", [9], 0, 4⟩, ⟨"a", [1], 0, 2⟩, ⟨"a", [2], 1, 2⟩]).rebuildField
      "a" = .ok [1, 2] := by
  have hparts : ∀ f ∈ ([⟨"a", [3], 1, 2⟩, ⟨"b", [9], 0, 4⟩, ⟨"a", [1], 0, 2⟩,
      ⟨"a", [2], 1, 2⟩] : List Field), f.part < f.total := by decide
  rcases (addAll_exact hparts "a").2.1 2 ⟨by decide, by decide, by decide⟩ with
    ⟨pieces, hlen, hpieces, hdata⟩
  rw [hdata]
  have hlist : pieces = [⟨"a", [1], 0, 2⟩, ⟨"a", [2], 1, 2⟩] := by
    refine List.ext_getElem? (fun i => ?_)
    rw [hpieces]
    match i with
    | 0 => rfl
    | 1 => rfl
    | i + 2 =>
        rw [← hpieces, List.getElem?_eq_none (by omega)]
        rfl
  rw [hlist]
  rfl

-- A part beyond its total would be counted like any other, which is why
-- reading a field refuses one.
example : (addAll ∅ [⟨"a", [1], 0, 2⟩, ⟨"a", [2], 5, 2⟩]).isFieldComplete "a" = true := by decide

end Assembly

end RoverDispatch
