import Mathlib
import RoverDispatch.Proofs.Table
import RoverDispatch.Proofs.Transfer.Splitting
import RoverDispatch.Transfer.Assembly

/-!
# Reassembly of Delivered Fragments

Fragments may arrive in any order, more than once, or not at all; what can be
put together depends only on which of them have arrived.

An assembly keeps one set of parts per name, so what it answers about a name
is decided by the fields of that name among those that were added, in their
order: `Assembly.find?_addAll`. If all of these are parts of one cut field,
they agree about the total, and a part that is repeated replaces itself. The
set then is the list of the pieces with some places missing, and counting the
parts tells whether any is.

For fragments of whole fields with different names this is the case for every
name. A part is in one fragment only, because no two items are the same, so
all parts of a field are there exactly when every fragment that carries one of
them has been delivered.

## Main definitions

* `PartSet.ofFields`: The parts of one name, in the order they were added.
* `Assembly.deliver`: Fragments added in some order.
* `Assembly.deliverEncoded`: The same through the wire format.
* `Carries`: A fragment holds an item of a name.

## Theorems

* `PartSet.find?_parts_foldl`: The last part of a number is the one that stays.
* `Assembly.find?_addAll`: What an assembly answers about a name.
* `PartSet.ofFields_of_cut`: The parts of one cut field.
* `Assembly.isFieldComplete_iff_of_cut`: A cut field is whole when all of its
  parts were added.
* `Assembly.rebuildField_of_cut`: Then its data is what was cut, and otherwise
  it is incomplete.
* `Assembly.size_addAll`: An assembly has one entry for each name.
* `mem_parts_of_delivered`: Only parts of a field arrive under its name.
* `delivered_iff`: All parts of a field arrive with the fragments that carry
  them.
* `Assembly.isFieldComplete_deliver_iff`, `Assembly.rebuildField_deliver`: The
  same of one field after any delivery.
* `Assembly.deliver_correct`: Reassembly after any delivery.
-/

namespace RoverDispatch

namespace PartSet

/-- The parts of one name, in the order they were added. -/
def ofFields : List Field → Option PartSet
  | [] => none
  | f :: rest => some (rest.foldl add (start f))

theorem ofFields_eq_none_iff {l : List Field} : ofFields l = none ↔ l = [] := by
  cases l with
  | nil => exact ⟨fun _ => rfl, fun _ => rfl⟩
  | cons f l => exact ⟨nofun, nofun⟩

theorem total_foldl (s : PartSet) (l : List Field) : (l.foldl add s).total = s.total := by
  induction l generalizing s with
  | nil => rfl
  | cons f l ih => rw [List.foldl_cons, ih, add]

theorem consistent_foldl (s : PartSet) (l : List Field) :
    (l.foldl add s).consistent = (s.consistent && l.all (fun f => s.total == f.total)) := by
  induction l generalizing s with
  | nil => rw [List.foldl_nil, List.all_nil, Bool.and_true]
  | cons f l ih => rw [List.foldl_cons, ih, List.all_cons, add, Bool.and_assoc]

/-- The last part of a number is the one that stays. -/
theorem find?_parts_foldl (s : PartSet) (l : List Field) (i : Nat) :
    (l.foldl add s).parts.find? i =
      ((l.reverse.find? (fun f => f.part = i)).map Field.data).or (s.parts.find? i) := by
  induction l generalizing s with
  | nil => rfl
  | cons f l ih =>
      -- The field that was added first is looked at last.
      rw [List.foldl_cons, ih, List.reverse_cons, List.find?_append, Option.map_or, Option.or_assoc]
      congr 1
      by_cases hi : f.part = i
      · simp [add, Table.find?_insert, hi]
      · simp [add, Table.find?_insert, hi, Ne.symm hi]

/-- What a set of parts answers about a number: the last part that has it. -/
theorem find?_parts_of_ofFields {l : List Field} {s : PartSet} (h : ofFields l = some s) (i : Nat) :
    s.parts.find? i = (l.reverse.find? (fun f => f.part = i)).map Field.data := by
  cases l with
  | nil => cases h
  | cons f l =>
      cases h
      rw [find?_parts_foldl, List.reverse_cons, List.find?_append, Option.map_or]
      congr 1
      by_cases hi : f.part = i
      · simp [start, Table.find?_insert, hi]
      · simp [start, Table.find?_insert, hi, Ne.symm hi]

variable {f : Field} {pieces : List Bytes} {l : List Field}

/-- The parts of one cut field agree about their total, and what the set holds
    under a number is the piece of that number. -/
theorem ofFields_of_cut {s : PartSet} (hl : ∀ item ∈ l, item ∈ f.parts pieces)
    (h : ofFields l = some s) :
    s.total = pieces.length ∧ s.consistent = true ∧
      (∀ i v, s.parts.find? i = some v → pieces[i]? = some v) ∧
      ∀ i, (s.parts.find? i).isSome ↔ ∃ item ∈ l, item.part = i := by
  have htotal : ∀ item ∈ l, item.total = pieces.length := by
    intro item hi
    rcases Field.mem_parts.1 (hl item hi) with ⟨i, hlt, rfl⟩
    rfl
  have hparts := find?_parts_of_ofFields h
  refine ⟨?_, ?_, ?_, ?_⟩
  · cases l with
    | nil => cases h
    | cons g l =>
        cases h
        rw [total_foldl]
        exact htotal g (List.mem_cons_self ..)
  · cases l with
    | nil => cases h
    | cons g l =>
        cases h
        rw [consistent_foldl]
        simp only [start, Bool.true_and, List.all_eq_true, beq_iff_eq]
        intro item hi
        rw [htotal g (List.mem_cons_self ..), htotal item (List.mem_cons_of_mem _ hi)]
  · -- What is found under a number is a part with that number, and so its piece.
    intro i v hv
    rw [hparts, Option.map_eq_some_iff] at hv
    rcases hv with ⟨item, hitem, rfl⟩
    have hpart := List.find?_some hitem
    rcases Field.mem_parts.1 (hl item (List.mem_reverse.1 (List.mem_of_find?_eq_some hitem))) with
      ⟨j, hlt, rfl⟩
    rw [← show j = i from of_decide_eq_true hpart, List.getElem?_eq_getElem hlt]
  · intro i
    rw [hparts, Option.isSome_map, List.find?_isSome]
    simp only [List.mem_reverse, decide_eq_true_eq]

/-- The set of the parts of one cut field is complete exactly when it answers
    like the list of the pieces. -/
theorem isComplete_iff_of_cut {s : PartSet} (hl : ∀ item ∈ l, item ∈ f.parts pieces)
    (h : ofFields l = some s) : s.isComplete ↔ ∀ i, s.parts.find? i = pieces[i]? := by
  rcases ofFields_of_cut hl h with ⟨htotal, hconsistent, hagree, -⟩
  rw [isComplete, hconsistent, htotal, Bool.true_and, beq_iff_eq]
  exact Table.size_eq_length_iff hagree

end PartSet

namespace Assembly

/-- What an assembly answers about a name is decided by the fields of that
    name. -/
theorem find?_addAll (fields : List Field) (name : String) :
    (addAll ∅ fields).find? name = PartSet.ofFields (fields.filter (fun f => f.name = name)) := by
  -- Adding changes the assembly that is added to, so this is said of all of them.
  have key : ∀ (a : Assembly), (a.addAll fields).find? name =
      (a.find? name).elim (PartSet.ofFields (fields.filter (fun f => f.name = name)))
        (fun s => some ((fields.filter (fun f => f.name = name)).foldl PartSet.add s)) := by
    induction fields with
    | nil =>
        intro a
        cases h : a.find? name <;> simp [addAll, PartSet.ofFields, h]
    | cons f fields ih =>
        intro a
        have hstep : (a.addAll (f :: fields)) = (a.add f).addAll fields := rfl
        rw [hstep, ih]
        by_cases hf : f.name = name
        · -- The set of the name begins with this part, or is there and takes it in.
          subst hf
          cases h : a.find? f.name <;>
            simp [add, Table.find?_insert, h, PartSet.ofFields]
        · have hadd : (a.add f).find? name = a.find? name := by
            rw [add, Table.find?_insert, if_neg (Ne.symm hf)]
          rw [hadd, List.filter_cons_of_neg (by simpa using hf)]
  exact key ∅

section Cut

variable {f : Field} {pieces : List Bytes} {added : List Field}

/-- A cut field is whole when all of its parts were added, given that nothing
    else was added under its name. -/
theorem isFieldComplete_iff_of_cut (hp : pieces ≠ [])
    (hl : ∀ item ∈ added.filter (fun g => g.name = f.name), item ∈ f.parts pieces) :
    (addAll ∅ added).isFieldComplete f.name ↔ ∀ item ∈ f.parts pieces, item ∈ added := by
  rw [isFieldComplete, find?_addAll]
  cases hs : PartSet.ofFields (added.filter (fun g => g.name = f.name)) with
  | none =>
      -- Nothing of the name was added, but a cut field has a part.
      have hnil := List.filter_eq_nil_iff.1 (PartSet.ofFields_eq_none_iff.1 hs)
      have hfirst := f.part_mem_parts (List.length_pos_iff.2 hp)
      simp only [Option.any_none, Bool.false_eq_true, false_iff]
      exact fun hall => hnil _ (hall _ hfirst) (decide_eq_true rfl)
  | some s =>
      rcases PartSet.ofFields_of_cut hl hs with ⟨-, -, hagree, hthere⟩
      rw [Option.any_some, PartSet.isComplete_iff_of_cut hl hs]
      constructor
      · -- A piece that the set answers with came from a part that was added.
        rintro hfind item hi
        rcases Field.mem_parts.1 hi with ⟨i, hlt, rfl⟩
        have hsome : (s.parts.find? i).isSome := by
          rw [hfind, List.getElem?_eq_getElem hlt]
          rfl
        rcases (hthere i).1 hsome with ⟨item, hitem, hpart⟩
        rcases Field.mem_parts.1 (hl item hitem) with ⟨j, hjlt, rfl⟩
        cases show j = i from hpart
        exact (List.mem_filter.1 hitem).1
      · intro hall i
        by_cases hlt : i < pieces.length
        · have hmem := f.part_mem_parts hlt
          have hsome := (hthere i).2
            ⟨_, List.mem_filter.2 ⟨hall _ hmem, decide_eq_true rfl⟩, rfl⟩
          rcases Option.isSome_iff_exists.1 hsome with ⟨v, hv⟩
          rw [hv, hagree i v hv]
        · -- There is no part behind the last one.
          rw [List.getElem?_eq_none (Nat.le_of_not_lt hlt), ← Option.not_isSome_iff_eq_none]
          intro hsome
          rcases Option.isSome_iff_exists.1 hsome with ⟨v, hv⟩
          exact hlt (List.getElem?_eq_some_iff.1 (hagree i v hv)).1

/-- The data of a cut field that is whole is what was cut. -/
theorem rebuildField_of_cut
    (hl : ∀ item ∈ added.filter (fun g => g.name = f.name), item ∈ f.parts pieces)
    (h : (addAll ∅ added).isFieldComplete f.name) :
    (addAll ∅ added).rebuildField f.name = .ok pieces.flatten := by
  rw [isFieldComplete, find?_addAll] at h
  rw [rebuildField, find?_addAll]
  cases hs : PartSet.ofFields (added.filter (fun g => g.name = f.name)) with
  | none =>
      rw [hs] at h
      cases h
  | some s =>
      rw [hs, Option.any_some] at h
      -- The parts have their own numbers, so in order they are the pieces.
      have hvalues := Table.values_eq_of_find? ((PartSet.isComplete_iff_of_cut hl hs).1 h)
      simp only [h, if_true, hvalues]

end Cut

/-- A field that is not whole is reported as incomplete under its name. -/
theorem rebuildField_of_not_complete {a : Assembly} {name : String}
    (h : ¬ a.isFieldComplete name) :
    ∃ received expected, a.rebuildField name = .error (.incompleteField name received expected) := by
  rw [isFieldComplete] at h
  rw [rebuildField]
  cases hs : a.find? name with
  | none => exact ⟨0, 1, rfl⟩
  | some s =>
      rw [hs, Option.any_some] at h
      exact ⟨s.parts.size, s.total, by simp only [h]; rfl⟩

/-- A name is listed exactly when a field of that name was added. -/
theorem mem_keys_addAll {fields : List Field} {name : String} :
    name ∈ (addAll ∅ fields).keys ↔ ∃ f ∈ fields, f.name = name := by
  rw [Table.mem_keys_iff, find?_addAll, ← Option.ne_none_iff_isSome, ne_eq,
    PartSet.ofFields_eq_none_iff, List.filter_eq_nil_iff]
  simp only [decide_eq_true_eq, not_forall, not_not, exists_prop]

/-- An assembly has one entry for each name that was added. -/
theorem size_addAll {fields : List Field} {names : List String} (hd : names.Nodup)
    (h : ∀ name, name ∈ names ↔ ∃ f ∈ fields, f.name = name) :
    (addAll ∅ fields).size = names.length := by
  rw [← Table.length_keys]
  refine List.Perm.length_eq ((List.perm_ext_iff_of_nodup (Table.nodup_keys _) hd).2 ?_)
  intro name
  rw [mem_keys_addAll, h]

/-- Fragments added in some order, any of them perhaps more than once or
    never. -/
def deliver (frags : List (List Field)) (order : List (Fin frags.length)) : Assembly :=
  order.foldl (fun a i => a.addAll frags[i]) ∅

/-- The same for fragments that have been through the wire format. -/
def deliverEncoded (frags : List (List Field)) (order : List (Fin frags.length)) :
    Except WireError Assembly :=
  order.foldlM (fun a i => do return a.addAll (← decodeFields (encodeFields frags[i]))) ∅

theorem addAll_append (a : Assembly) (fields more : List Field) :
    a.addAll (fields ++ more) = (a.addAll fields).addAll more := by
  rw [addAll, List.foldl_append]
  rfl

/-- What was delivered, one field after another. -/
theorem deliver_eq_addAll (frags : List (List Field)) (order : List (Fin frags.length)) :
    deliver frags order = addAll ∅ (order.flatMap (fun i => frags[i])) := by
  have key : ∀ a : Assembly, order.foldl (fun a i => a.addAll frags[i]) a =
      a.addAll (order.flatMap (fun i => frags[i])) := by
    induction order with
    | nil => exact fun a => rfl
    | cons i order ih =>
        intro a
        rw [List.foldl_cons, ih, List.flatMap_cons, addAll_append]
  exact key ∅

/-- The wire format changes nothing for fragments that its words can hold. -/
theorem deliverEncoded_eq {frags : List (List Field)} (h : ∀ frag ∈ frags, ∀ f ∈ frag, f.Fits)
    (order : List (Fin frags.length)) : deliverEncoded frags order = .ok (deliver frags order) := by
  -- The induction is on the order, so it has to be about any assembly to start from.
  have key : ∀ a : Assembly, order.foldlM (m := Except WireError)
      (fun a i => do return a.addAll (← decodeFields (encodeFields frags[i]))) a =
      .ok (order.foldl (fun a i => a.addAll frags[i]) a) := by
    induction order with
    | nil => exact fun a => rfl
    | cons i order ih =>
        intro a
        have hdecode : decodeFields (encodeFields frags[i]) = .ok frags[i] :=
          decodeFields_encodeFields (h _ (List.getElem_mem i.isLt))
        rw [List.foldlM_cons, hdecode]
        exact ih (a.addAll frags[i])
  exact key ∅

end Assembly

/-- A fragment holds an item of a name. -/
def Carries (frag : List Field) (name : String) : Prop := ∃ item ∈ frag, item.name = name

instance (frag : List Field) (name : String) : Decidable (Carries frag name) :=
  inferInstanceAs (Decidable (∃ item ∈ frag, item.name = name))

section Delivery

variable {limit : Nat} {fields : List Field} {frags : List (List Field)}

/-- What is delivered under the name of a field are parts of the field. -/
theorem mem_parts_of_delivered {f : Field} {pieces : List Bytes}
    (hitems : frags.flatten.filter (fun item => item.name = f.name) = f.parts pieces)
    (order : List (Fin frags.length)) :
    ∀ item ∈ (order.flatMap (fun i => frags[i])).filter (fun item => item.name = f.name),
      item ∈ f.parts pieces := by
  intro item hi
  rcases List.mem_filter.1 hi with ⟨hmem, hname⟩
  rcases List.mem_flatMap.1 hmem with ⟨i, -, hitem⟩
  rw [← hitems]
  exact List.mem_filter.2 ⟨List.mem_flatten_of_mem (List.getElem_mem i.isLt) hitem, hname⟩

/-- All parts of a field are delivered exactly when every fragment that carries
    one of them is. -/
theorem delivered_iff (hcut : CutInto fields frags.flatten)
    (hd : (fields.map Field.name).Nodup) {f : Field} {items : List Field}
    (hitems : frags.flatten.filter (fun item => item.name = f.name) = items)
    (order : List (Fin frags.length)) :
    (∀ item ∈ items, item ∈ order.flatMap (fun i => frags[i])) ↔
      ∀ i : Fin frags.length, Carries frags[i] f.name → i ∈ order := by
  subst hitems
  constructor
  · rintro hall i ⟨item, hi, hname⟩
    have hmem : item ∈ frags.flatten.filter (fun item => item.name = f.name) :=
      List.mem_filter.2 ⟨List.mem_flatten_of_mem (List.getElem_mem i.isLt) hi, decide_eq_true hname⟩
    rcases List.mem_flatMap.1 (hall item hmem) with ⟨j, hj, hij⟩
    -- An item is in one fragment only.
    have hdisjoint := (List.nodup_flatten.1 (hcut.nodup hd)).2
    by_cases hne : i = j
    · exact hne ▸ hj
    · rcases Nat.lt_or_gt_of_ne (fun he => hne (Fin.ext he)) with hlt | hlt
      · exact absurd hij (List.pairwise_iff_getElem.1 hdisjoint i j i.isLt j.isLt hlt hi)
      · exact absurd hi (List.pairwise_iff_getElem.1 hdisjoint j i j.isLt i.isLt hlt hij)
  · -- The fragment that an item is in carries its name.
    intro hall item hmem
    rcases List.mem_filter.1 hmem with ⟨hflat, hname⟩
    rcases List.mem_flatten.1 hflat with ⟨frag, hfrag, hi⟩
    rcases List.getElem_of_mem hfrag with ⟨j, hj, rfl⟩
    exact List.mem_flatMap.2
      ⟨⟨j, hj⟩, hall ⟨j, hj⟩ ⟨item, hi, of_decide_eq_true hname⟩, hi⟩

/-- A field is whole exactly when every fragment that carries an item of it has
    been delivered. -/
theorem Assembly.isFieldComplete_deliver_iff (hcut : CutInto fields frags.flatten)
    (hd : (fields.map Field.name).Nodup) {f : Field} (hf : f ∈ fields)
    (order : List (Fin frags.length)) :
    (deliver frags order).isFieldComplete f.name ↔
      ∀ i : Fin frags.length, Carries frags[i] f.name → i ∈ order := by
  rcases hcut.filter_name hd hf with ⟨pieces, hne, -, -, hitems⟩
  rw [deliver_eq_addAll, isFieldComplete_iff_of_cut hne (mem_parts_of_delivered hitems order)]
  exact delivered_iff hcut hd hitems order

/-- The data of a field that is whole is what was fragmented. -/
theorem Assembly.rebuildField_deliver (hcut : CutInto fields frags.flatten)
    (hd : (fields.map Field.name).Nodup) {f : Field} (hf : f ∈ fields)
    (order : List (Fin frags.length)) (h : (deliver frags order).isFieldComplete f.name) :
    (deliver frags order).rebuildField f.name = .ok f.data := by
  rcases hcut.filter_name hd hf with ⟨pieces, -, -, hflat, hitems⟩
  rw [deliver_eq_addAll] at h ⊢
  rw [rebuildField_of_cut (mem_parts_of_delivered hitems order) h, hflat]

/-- Reassembly after any delivery. A field is whole exactly when every fragment
    that carries an item of it has arrived, its data is then what it was, and
    until then it is reported as incomplete; there are as many entries as
    fields of which anything has arrived. If the words of the wire format can
    hold the fields, it makes no difference that fragments travel as bytes. -/
theorem Assembly.deliver_correct (hwhole : ∀ f ∈ fields, f.IsWhole)
    (hd : (fields.map Field.name).Nodup) (hfrags : fragments limit fields = .ok frags)
    (order : List (Fin frags.length)) :
    (∀ f ∈ fields,
      ((deliver frags order).isFieldComplete f.name ↔
        ∀ i : Fin frags.length, Carries frags[i] f.name → i ∈ order) ∧
      ((deliver frags order).isFieldComplete f.name →
        (deliver frags order).rebuildField f.name = .ok f.data) ∧
      (¬ (deliver frags order).isFieldComplete f.name →
        ∃ received expected, (deliver frags order).rebuildField f.name =
          .error (.incompleteField f.name received expected))) ∧
    (deliver frags order).size =
      (fields.filter (fun f => ∃ i ∈ order, Carries frags[i] f.name)).length ∧
    ((∀ f ∈ fields, f.name.utf8ByteSize ≤ 65535 ∧ f.data.length < 2 ^ 32) →
      deliverEncoded frags order = .ok (deliver frags order)) := by
  have hcut := cutInto_of_fragments hwhole hfrags
  refine ⟨fun f hf => ⟨?_, ?_, rebuildField_of_not_complete⟩, ?_, fun hfits => ?_⟩
  · exact isFieldComplete_deliver_iff hcut hd hf order
  · exact rebuildField_deliver hcut hd hf order
  · -- The names of which something has arrived, in the order of the fields.
    rw [deliver_eq_addAll, ← List.length_map Field.name]
    refine size_addAll (List.Nodup.sublist (List.filter_sublist.map _) hd) (fun name => ?_)
    simp only [List.mem_map, List.mem_filter, decide_eq_true_eq, List.mem_flatMap]
    constructor
    · rintro ⟨f, ⟨-, i, hi, item, hitem, hname⟩, rfl⟩
      exact ⟨item, ⟨i, hi, hitem⟩, hname⟩
    · rintro ⟨item, ⟨i, hi, hitem⟩, rfl⟩
      have hmem := hcut.name_mem (List.mem_flatten_of_mem (List.getElem_mem i.isLt) hitem)
      rcases List.mem_map.1 hmem with ⟨f, hf, hname⟩
      exact ⟨f, ⟨hf, i, hi, item, hitem, hname.symm⟩, hname⟩
  · have hfields : ∀ f ∈ fields, f.Fits := by
      intro f hf
      rcases hfits f hf with ⟨hname, hdata⟩
      rcases hwhole f hf with ⟨hpart, htotal⟩
      simp only [Field.Fits, Word.size_two, Word.size_four]
      omega
    refine deliverEncoded_eq (fun frag hfrag item hi => ?_) order
    exact hcut.fits hfields (List.mem_flatten_of_mem hfrag hi)

/-- Of a long field cut in two and a short one packed behind its second part,
    two copies of the second fragment make the short one whole. -/
theorem Assembly.deliver_correct_second_twice :
    fragments 25 [⟨"a", List.replicate 15 7, 0, 1⟩, ⟨"b", [6], 0, 1⟩] =
      .ok [[⟨"a", List.replicate 14 7, 0, 2⟩], [⟨"a", [7], 1, 2⟩, ⟨"b", [6], 0, 1⟩]] ∧
    (deliver [[⟨"a", List.replicate 14 7, 0, 2⟩], [⟨"a", [7], 1, 2⟩, ⟨"b", [6], 0, 1⟩]]
      [1, 1]).rebuildField "b" = .ok [6] := by
  have hfrags : fragments 25 [⟨"a", List.replicate 15 7, 0, 1⟩, ⟨"b", [6], 0, 1⟩] =
      .ok [[⟨"a", List.replicate 14 7, 0, 2⟩], [⟨"a", [7], 1, 2⟩, ⟨"b", [6], 0, 1⟩]] := by
    cbv
  have hall := (deliver_correct (by decide) (by decide) hfrags [1, 1]).1 ⟨"b", [6], 0, 1⟩ (by simp)
  exact ⟨hfrags, hall.2.1 (hall.1.2 (by decide))⟩

end Delivery

end RoverDispatch
