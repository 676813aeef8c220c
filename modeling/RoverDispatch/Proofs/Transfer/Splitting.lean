import RoverDispatch.Proofs.Wire.Values
import RoverDispatch.Transfer.Split

/-!
# What Splitting Keeps

Fragments hold the fields they were made from, cut but neither lost, repeated
nor moved.

Two things happen to a run of fields. Each field is cut into parts, or left
alone if it fits, and the items that result are packed into fragments.
`CutInto` describes the first step without the limit: field by field, the
items are the parts of pieces that make up the data. A field that is left
alone is cut into one piece, so the description has one case only. Packing
then merely places boundaries between the items, which is `flatten_pack`.

With different names, a field's parts are exactly the items that carry its
name, and no two items are the same. This is what lets reassembly look at one
name at a time.

## Main definitions

* `Field.IsCutInto`: The parts of one field.
* `CutInto`: The items of a run of fields.

## Theorems

* `flatten_chunks`: The pieces of a list make up the list.
* `Field.mem_parts`: What the parts of a field are.
* `Field.isCutInto_of_split`: Splitting cuts a whole field.
* `cutInto_of_splitFields`: Splitting cuts a run of whole fields.
* `flatten_pack`: Packing keeps the items in their order.
* `length_pack_le`: There are no more fragments than items.
* `cutInto_of_fragments`: The contents of fragments are the items.
* `CutInto.filter_name`: The items of a name are the parts of its field.
* `CutInto.nodup`: No two items are the same.
* `CutInto.fits`: Words that hold the fields hold the items.
* `length_fragments_le`: How many fragments there can be.
-/

namespace RoverDispatch

/-- The pieces of a list make up the list. -/
theorem flatten_chunks {α : Type} {n : Nat} (hn : n ≠ 0) (l : List α) :
    (chunks n l).flatten = l := by
  induction l using chunks.induct n with
  | case1 l h =>
      have hl : l = [] := h.resolve_left hn
      rw [chunks, dif_pos h, hl, List.flatten_nil]
  | case2 l h ih =>
      -- A piece is cut off the front, and the rest is cut in the same way.
      rw [chunks, dif_neg h, List.flatten_cons, ih, List.take_append_drop]

theorem chunks_ne_nil {α : Type} {n : Nat} (hn : n ≠ 0) {l : List α} (hl : l ≠ []) :
    chunks n l ≠ [] := by
  intro h
  have hflat := flatten_chunks hn l
  rw [h, List.flatten_nil] at hflat
  exact hl hflat.symm

namespace Field

/-- What the parts of a field are. -/
theorem mem_parts {f item : Field} {pieces : List Bytes} :
    item ∈ f.parts pieces ↔
      ∃ (i : Nat) (h : i < pieces.length), item = ⟨f.name, pieces[i], i, pieces.length⟩ := by
  simp only [parts, List.mem_mapIdx, eq_comm]

theorem part_mem_parts (f : Field) {pieces : List Bytes} {i : Nat} (h : i < pieces.length) :
    (⟨f.name, pieces[i], i, pieces.length⟩ : Field) ∈ f.parts pieces :=
  mem_parts.2 ⟨i, h, rfl⟩

theorem name_of_mem_parts {f item : Field} {pieces : List Bytes} (h : item ∈ f.parts pieces) :
    item.name = f.name := by
  rcases mem_parts.1 h with ⟨i, hi, rfl⟩
  rfl

/-- The parts of a field: consecutive pieces of its data, numbered. -/
def IsCutInto (f : Field) (items : List Field) : Prop :=
  ∃ pieces : List Bytes, pieces ≠ [] ∧ pieces.length ≤ maxParts ∧ pieces.flatten = f.data ∧
    items = f.parts pieces

/-- A whole field is its own only part. -/
theorem IsWhole.isCutInto_self {f : Field} (h : f.IsWhole) : f.IsCutInto [f] := by
  rcases f with ⟨name, data, part, total⟩
  rcases h with ⟨rfl, rfl⟩
  exact ⟨[data], List.cons_ne_nil _ _, by simp [maxParts], by simp, rfl⟩

/-- Splitting cuts a whole field. -/
theorem isCutInto_of_split {limit : Nat} {f : Field} {items : List Field} (hf : f.IsWhole)
    (h : f.split limit = .ok items) : f.IsCutInto items := by
  simp only [split] at h
  split at h
  · cases h
    exact hf.isCutInto_self
  rename_i hlong
  split at h
  · cases h
  rename_i hroom
  split at h
  · cases h
  rename_i hparts
  cases h
  -- A field that is cut is longer than its overhead, so it has data.
  have hdata : f.data ≠ [] := by
    intro he
    simp only [encodedLength, he, List.length_nil] at hlong
    omega
  exact ⟨_, chunks_ne_nil hroom hdata, Nat.le_of_not_lt hparts, flatten_chunks hroom f.data, rfl⟩

end Field

/-- The items of a run of fields: the parts of each, in the order of the
    fields. -/
inductive CutInto : List Field → List Field → Prop where
  | nil : CutInto [] []
  | cons {f : Field} {parts fields items : List Field} :
      f.IsCutInto parts → CutInto fields items → CutInto (f :: fields) (parts ++ items)

/-- Splitting cuts a run of whole fields. -/
theorem cutInto_of_splitFields {limit : Nat} {fields items : List Field}
    (hf : ∀ f ∈ fields, f.IsWhole) (h : splitFields limit fields = .ok items) :
    CutInto fields items := by
  induction fields generalizing items with
  | nil =>
      cases h
      exact .nil
  | cons f fields ih =>
      -- The run is split only when its first field and the others are.
      simp only [splitFields, List.mapM_cons, bind, Except.bind] at h
      cases hsplit : f.split limit with
      | error e =>
          rw [hsplit] at h
          cases h
      | ok parts =>
          cases hrest : fields.mapM (Field.split limit) with
          | error e =>
              rw [hsplit, hrest] at h
              cases h
          | ok rest =>
              rw [hsplit, hrest] at h
              cases h
              refine .cons (Field.isCutInto_of_split (hf f (List.mem_cons_self ..)) hsplit)
                (ih (fun g hg => hf g (List.mem_cons_of_mem _ hg)) ?_)
              rw [splitFields, hrest]
              rfl

theorem flatten_packOnto (limit : Nat) (current items : List Field) :
    (packOnto limit current items).flatten = current ++ items := by
  induction items generalizing current with
  | nil =>
      rw [packOnto]
      split
      · rename_i h
        rw [h]
        rfl
      · rw [List.flatten_cons, List.flatten_nil]
  | cons item items ih =>
      -- The item begins a new fragment or joins the current one.
      rw [packOnto]
      split
      · rw [List.flatten_cons, ih, List.singleton_append]
      · rw [ih, List.append_assoc, List.singleton_append]

/-- Packing keeps the items in their order. -/
theorem flatten_pack (limit : Nat) (items : List Field) : (pack limit items).flatten = items := by
  rw [pack, flatten_packOnto, List.nil_append]

theorem length_packOnto_le (limit : Nat) (current items : List Field) :
    (packOnto limit current items).length ≤ (if current = [] then 0 else 1) + items.length := by
  induction items generalizing current with
  | nil =>
      rw [packOnto]
      split <;> exact Nat.le_refl _
  | cons item items ih =>
      -- Either way the fragment that is open then holds the item.
      have hopen : ∀ current, (if current ++ [item] = [] then 0 else 1) = 1 := fun current =>
        if_neg (List.append_ne_nil_of_right_ne_nil current (List.cons_ne_nil item []))
      rw [packOnto, List.length_cons]
      split
      · rename_i hfull
        have hrest := ih [item]
        rw [show (if [item] = [] then 0 else 1) = 1 from hopen []] at hrest
        rw [if_neg hfull.1, List.length_cons]
        omega
      · have hrest := ih (current ++ [item])
        rw [hopen] at hrest
        omega

/-- There are no more fragments than items. -/
theorem length_pack_le (limit : Nat) (items : List Field) :
    (pack limit items).length ≤ items.length := by
  have h := length_packOnto_le limit [] items
  rw [if_pos rfl, Nat.zero_add] at h
  exact h

/-- The contents of the fragments of whole fields are the items of the
    fields. -/
theorem cutInto_of_fragments {limit : Nat} {fields : List Field} {frags : List (List Field)}
    (hf : ∀ f ∈ fields, f.IsWhole) (h : fragments limit fields = .ok frags) :
    CutInto fields frags.flatten := by
  simp only [fragments, bind, Except.bind] at h
  cases hitems : splitFields limit fields with
  | error e =>
      rw [hitems] at h
      cases h
  | ok items =>
      rw [hitems] at h
      cases h
      rw [flatten_pack]
      exact cutInto_of_splitFields hf hitems

namespace CutInto

variable {fields items : List Field}

/-- Of every field something is left. -/
theorem ne_nil (h : CutInto fields items) (hne : fields ≠ []) : items ≠ [] := by
  cases h with
  | nil => exact absurd rfl hne
  | cons hcut hrest =>
      rcases hcut with ⟨pieces, hpieces, -, -, rfl⟩
      intro hnil
      rw [List.append_eq_nil_iff, Field.parts, List.mapIdx_eq_nil_iff] at hnil
      exact hpieces hnil.1

/-- Every item carries the name of a field. -/
theorem name_mem (h : CutInto fields items) {item : Field} (hi : item ∈ items) :
    item.name ∈ fields.map Field.name := by
  induction h with
  | nil => cases hi
  | cons hcut _ ih =>
      rcases hcut with ⟨pieces, -, -, -, rfl⟩
      rw [List.map_cons]
      rcases List.mem_append.1 hi with hi | hi
      · rw [Field.name_of_mem_parts hi]
        exact List.mem_cons_self ..
      · exact List.mem_cons_of_mem _ (ih hi)

/-- The items of a name are the parts of the field of that name. -/
theorem filter_name (h : CutInto fields items) (hd : (fields.map Field.name).Nodup) {f : Field}
    (hf : f ∈ fields) : f.IsCutInto (items.filter (fun item => item.name = f.name)) := by
  induction h with
  | nil => cases hf
  | @cons g parts fields items hcut hrest ih =>
      rw [List.map_cons, List.nodup_cons] at hd
      have hparts : ∀ item ∈ parts, item.name = g.name := by
        rcases hcut with ⟨pieces, -, -, -, rfl⟩
        exact fun item hi => Field.name_of_mem_parts hi
      rw [List.filter_append]
      rcases List.mem_cons.1 hf with rfl | hf
      · -- The other fields have no item of this name.
        have hnone : items.filter (fun item => item.name = f.name) = [] := by
          refine List.filter_eq_nil_iff.2 (fun item hi he => hd.1 ?_)
          rw [← of_decide_eq_true he]
          exact hrest.name_mem hi
        have hall : parts.filter (fun item => item.name = f.name) = parts :=
          List.filter_eq_self.2 (fun item hi => decide_eq_true (hparts item hi))
        rw [hnone, hall, List.append_nil]
        exact hcut
      · -- The first field is another one, so none of its parts counts.
        have hnone : parts.filter (fun item => item.name = f.name) = [] := by
          refine List.filter_eq_nil_iff.2 (fun item hi he => hd.1 ?_)
          rw [← hparts item hi, of_decide_eq_true he]
          exact List.mem_map_of_mem hf
        rw [hnone, List.nil_append]
        exact ih hd.2 hf

/-- No two items are the same: they differ in name or in place. -/
theorem nodup (h : CutInto fields items) (hd : (fields.map Field.name).Nodup) : items.Nodup := by
  induction h with
  | nil => exact List.nodup_nil
  | @cons f parts fields items hcut hrest ih =>
      rw [List.map_cons, List.nodup_cons] at hd
      rcases hcut with ⟨pieces, -, -, -, rfl⟩
      refine List.nodup_append.2 ⟨?_, ih hd.2, fun a ha b hb hab => hd.1 ?_⟩
      · -- Parts of one field are told apart by their places.
        refine List.pairwise_iff_getElem.2 (fun i j hi hj hij he => ?_)
        simp only [Field.parts, List.getElem_mapIdx] at he
        exact absurd (congrArg Field.part he) (Nat.ne_of_lt hij)
      · -- Items of different fields are told apart by their names.
        rw [← Field.name_of_mem_parts ha, hab]
        exact hrest.name_mem hb

/-- Words that can hold the fields can hold the items. -/
theorem fits (h : CutInto fields items) (hf : ∀ f ∈ fields, f.Fits) {item : Field}
    (hi : item ∈ items) : item.Fits := by
  induction h with
  | nil => cases hi
  | @cons f parts fields items hcut _ ih =>
      rcases List.mem_append.1 hi with hi | hi
      · rcases hcut with ⟨pieces, -, hlen, hflat, rfl⟩
        rcases hf f (List.mem_cons_self ..) with ⟨hname, hdata, -, -⟩
        rcases Field.mem_parts.1 hi with ⟨i, hlt, rfl⟩
        -- No piece is longer than the data it was cut from.
        have hpiece : pieces[i].length ≤ f.data.length := by
          rw [← hflat]
          exact (List.sublist_flatten_of_mem (List.getElem_mem hlt)).length_le
        refine ⟨hname, Nat.lt_of_le_of_lt hpiece hdata, hlt, ?_⟩
        simp only [maxParts, Word.size_two] at hlen ⊢
        omega
      · exact ih (fun g hg => hf g (List.mem_cons_of_mem _ hg)) hi

theorem length_le (h : CutInto fields items) : items.length ≤ fields.length * maxParts := by
  induction h with
  | nil => exact Nat.zero_le _
  | @cons f parts fields items hcut _ ih =>
      rcases hcut with ⟨pieces, -, hlen, -, rfl⟩
      rw [List.length_append, List.length_cons, Nat.succ_mul, Field.parts, List.length_mapIdx]
      omega

end CutInto

/-- How many fragments there can be. -/
theorem length_fragments_le {limit : Nat} {fields : List Field} {frags : List (List Field)}
    (hf : ∀ f ∈ fields, f.IsWhole) (h : fragments limit fields = .ok frags) :
    frags.length ≤ fields.length * maxParts := by
  simp only [fragments, bind, Except.bind] at h
  cases hitems : splitFields limit fields with
  | error e =>
      rw [hitems] at h
      cases h
  | ok items =>
      rw [hitems] at h
      cases h
      exact Nat.le_trans (length_pack_le limit items) (cutInto_of_splitFields hf hitems).length_le

end RoverDispatch
