import Mathlib.Algebra.Order.Floor.Div
import Mathlib.Data.List.Forall2
import RoverDispatch.Proofs.Transfer.Splitting

/-!
# What Fragments Are

Everything that can be said of fragments without knowing what the fields mean:
when there are any, how large they are, and what they hold.

Cutting looks at one field at a time and packing at one item at a time, so the
two are described apart. `Field.Yields` is what cutting makes of a field that
it does not refuse, and `Field.CannotBeCut` is when it does. The fields are
arbitrary here: one that is itself a part is cut like any other, and its place
is forgotten if it is.

Whether a run has to be cut up at all is decided by its length, before any
fragment is made. That this agrees with the packing rests on two estimates. A
run that is within the limit never closes a fragment, since what is open is
always a part of the run. And a cut never saves a byte, because every part
repeats the overhead: if all items go into one fragment then so do the fields,
and none of them was cut.

## Main definitions

* `Field.CannotBeCut`: A field that does not fit and cannot be made to.
* `Field.Yields`: The items that a field is packed as.

## Theorems

* `length_chunks`: There are as many pieces as the data divided by the room.
* `of_mem_chunks`: No piece is empty or longer than it may be.
* `mapM_eq_ok_iff`, `mapM_eq_error_iff`: A run succeeds when every step does.
* `Field.split_eq_error_iff`: Which fields are refused.
* `Field.yields_of_split`: What the others become.
* `Field.Yields.encodedLength_le`: Every item fits.
* `Field.Yields.le_fieldsLength`: A cut never saves a byte.
* `of_mem_pack`: A fragment is not empty and fits.
* `packOnto_append`: Items for which there is room.
* `pack_of_le`: Items within the limit are one fragment.
* `fieldsLength_le_of_yields`, `flatten_of_yields`: What the items of a run say
  about the run.
* `fragments_eq_error_iff`: When there are fragments.
* `of_mem_fragments`, `yields_of_fragments`: How large they are, and what they
  hold.
* `fragments_of_le`, `fieldsLength_le_of_fragments`: When there is one.
* `fragments_exact`: When there are fragments, and what they are.
-/

namespace RoverDispatch

/-! ### Pieces of a list -/

section Chunks

variable {α : Type} {n : Nat}

/-- A list has as many pieces as its length divided by theirs, rounded up. -/
theorem length_chunks (hn : n ≠ 0) (l : List α) : (chunks n l).length = l.length ⌈/⌉ n := by
  induction l using chunks.induct n with
  | case1 l h =>
      rw [chunks, dif_pos h, h.resolve_left hn, List.length_nil, List.length_nil, zero_ceilDiv]
  | case2 l h ih =>
      have hl : 0 < l.length := List.length_pos_iff.2 (fun he => h (.inr he))
      rw [chunks, dif_neg h, List.length_cons, ih, List.length_drop, Nat.ceilDiv_eq_add_pred_div,
        Nat.ceilDiv_eq_add_pred_div]
      -- The first piece is one of them, even when it is all that there is.
      by_cases hle : l.length ≤ n
      · have hlast : l.length + n - 1 = (l.length - 1) + n := by omega
        rw [Nat.sub_eq_zero_of_le hle, hlast, Nat.add_div_right _ (Nat.pos_of_ne_zero hn),
          Nat.div_eq_of_lt (by omega), Nat.div_eq_of_lt (by omega)]
      · have hmore : l.length + n - 1 = (l.length - n + n - 1) + n := by omega
        rw [hmore, Nat.add_div_right _ (Nat.pos_of_ne_zero hn)]

/-- No piece is empty, and none is longer than it may be. -/
theorem of_mem_chunks {l piece : List α} (h : piece ∈ chunks n l) :
    piece ≠ [] ∧ piece.length ≤ n := by
  induction l using chunks.induct n with
  | case1 l hl =>
      rw [chunks, dif_pos hl] at h
      cases h
  | case2 l hl ih =>
      rw [chunks, dif_neg hl, List.mem_cons] at h
      rcases h with rfl | h
      · exact ⟨fun he => hl (List.take_eq_nil_iff.1 he), List.length_take_le n l⟩
      · exact ih h

end Chunks

/-! ### Runs that may fail -/

section Runs

variable {ε α β : Type} {f : α → Except ε β}

/-- A run gives a result when every step of it does. -/
theorem mapM_eq_ok_iff {l : List α} {r : List β} :
    l.mapM f = .ok r ↔ List.Forall₂ (fun a b => f a = .ok b) l r := by
  induction l generalizing r with
  | nil =>
      simp only [List.mapM_nil, pure, Except.pure, Except.ok.injEq, List.forall₂_nil_left_iff,
        eq_comm]
  | cons a l ih =>
      rw [List.mapM_cons, List.forall₂_cons_left_iff]
      -- The first step that fails decides, so both steps and run are taken apart together.
      rcases ha : f a with e | b
      · simp only [bind, Except.bind, reduceCtorEq, false_and, exists_false]
      · rcases hl : l.mapM f with e | rest
        · simp only [bind, Except.bind, reduceCtorEq, ← ih, hl, false_and, and_false, exists_false]
        · simp only [bind, Except.bind, pure, Except.pure, Except.ok.injEq, ← ih, hl]
          constructor
          · rintro rfl
            exact ⟨b, rest, rfl, rfl, rfl⟩
          · rintro ⟨-, -, rfl, rfl, rfl⟩
            rfl

/-- A run fails when some step of it does. -/
theorem mapM_eq_error_iff {l : List α} :
    (∃ e, l.mapM f = .error e) ↔ ∃ a ∈ l, ∃ e, f a = .error e := by
  induction l with
  | nil =>
      simp only [List.mapM_nil, pure, Except.pure, reduceCtorEq, exists_false, List.not_mem_nil,
        false_and]
  | cons a l ih =>
      rw [List.mapM_cons, List.exists_mem_cons_iff, ← ih]
      rcases ha : f a with e | b
      · simp only [bind, Except.bind, Except.error.injEq, exists_eq', true_or]
      · rcases hl : l.mapM f with e | rest
        · simp only [bind, Except.bind, Except.error.injEq, exists_eq', or_true]
        · simp only [bind, Except.bind, pure, Except.pure, reduceCtorEq, exists_false, or_self]

end Runs

/-! ### The items of one field -/

namespace Field

variable {limit : Nat} {f : Field} {items : List Field}

/-- A field that does not fit and cannot be made to: the limit leaves no room
    beside the overhead, or too many parts would be needed. -/
def CannotBeCut (limit : Nat) (f : Field) : Prop :=
  limit < f.encodedLength ∧
    (limit ≤ f.overhead ∨ maxParts < f.data.length ⌈/⌉ (limit - f.overhead))

/-- The items that a field is packed as: the field itself if it fits, and
    otherwise two or more parts that share its data out. -/
def Yields (limit : Nat) (f : Field) (items : List Field) : Prop :=
  f.encodedLength ≤ limit ∧ items = [f] ∨
    limit < f.encodedLength ∧ ∃ pieces : List Bytes, 2 ≤ pieces.length ∧
      pieces.length ≤ maxParts ∧ (∀ piece ∈ pieces, piece ≠ []) ∧ pieces.flatten = f.data ∧
      items = f.parts pieces

/-- A field is refused exactly when it cannot be cut. -/
theorem split_eq_error_iff : (∃ e, f.split limit = .error e) ↔ f.CannotBeCut limit := by
  unfold split CannotBeCut
  by_cases hfit : f.encodedLength ≤ limit
  · simp only [if_pos hfit, reduceCtorEq, exists_false, Nat.not_lt.2 hfit, false_and]
  · by_cases hroom : limit - f.overhead = 0
    · have hover : limit ≤ f.overhead := by omega
      simp only [if_neg hfit, if_pos hroom, Except.error.injEq, exists_eq', Nat.lt_of_not_le hfit,
        hover, true_or, and_self]
    · have hover : ¬ limit ≤ f.overhead := by omega
      simp only [if_neg hfit, if_neg hroom, length_chunks hroom, Nat.lt_of_not_le hfit, hover,
        false_or, true_and]
      split <;> simp [*]

/-- A field that is not refused fits, or is cut into pieces of the room that
    the limit leaves. -/
theorem of_split_eq_ok (h : f.split limit = .ok items) :
    f.encodedLength ≤ limit ∧ items = [f] ∨
      limit < f.encodedLength ∧ limit - f.overhead ≠ 0 ∧
        (chunks (limit - f.overhead) f.data).length ≤ maxParts ∧
        items = f.parts (chunks (limit - f.overhead) f.data) := by
  unfold split at h
  by_cases hfit : f.encodedLength ≤ limit
  · rw [if_pos hfit, Except.ok.injEq] at h
    exact .inl ⟨hfit, h.symm⟩
  · -- It has to be cut, which needs some room and not too many pieces.
    by_cases hroom : limit - f.overhead = 0
    · simp only [if_neg hfit, if_pos hroom, reduceCtorEq] at h
    · by_cases hmany : maxParts < (chunks (limit - f.overhead) f.data).length
      · simp only [if_neg hfit, if_neg hroom, if_pos hmany, reduceCtorEq] at h
      · simp only [if_neg hfit, if_neg hroom, if_neg hmany, Except.ok.injEq] at h
        exact .inr ⟨Nat.lt_of_not_le hfit, hroom, Nat.le_of_not_lt hmany, h.symm⟩

/-- A field that is not refused yields its items. -/
theorem yields_of_split (h : f.split limit = .ok items) : f.Yields limit items := by
  rcases of_split_eq_ok h with hwhole | ⟨hlong, hroom, hmany, rfl⟩
  · exact .inl hwhole
  refine .inr ⟨hlong, _, ?_, hmany, fun piece hp => (of_mem_chunks hp).1,
    flatten_chunks hroom f.data, rfl⟩
  -- One piece would have fitted together with the overhead.
  by_contra hone
  have hceil : f.data.length ⌈/⌉ (limit - f.overhead) ≤ 1 := by
    rw [← length_chunks hroom]
    omega
  have hle := (ceilDiv_le_iff_le_mul (Nat.pos_of_ne_zero hroom)).1 hceil
  unfold encodedLength at hlong
  omega

/-- Every item of a field fits. -/
theorem encodedLength_le_of_split (h : f.split limit = .ok items) {item : Field}
    (hi : item ∈ items) : item.encodedLength ≤ limit := by
  rcases of_split_eq_ok h with ⟨hfit, rfl⟩ | ⟨-, hroom, -, rfl⟩
  · rw [List.mem_singleton.1 hi]
    exact hfit
  · rcases mem_parts.1 hi with ⟨i, hlt, rfl⟩
    have hpiece := (of_mem_chunks (List.getElem_mem hlt)).2
    simp only [encodedLength, overhead] at hroom hpiece ⊢
    omega

/-- Every part carries the overhead of the field again. -/
theorem fieldsLength_parts (f : Field) (pieces : List Bytes) :
    fieldsLength (f.parts pieces) = pieces.length * f.overhead + pieces.flatten.length := by
  -- The place of a part does not change its length, so any total will do.
  have key : ∀ (start total : Nat), fieldsLength (pieces.mapIdx
      (fun i piece => ⟨f.name, piece, start + i, total⟩)) =
      pieces.length * f.overhead + pieces.flatten.length := by
    induction pieces with
    | nil => exact fun _ _ => by simp
    | cons piece pieces ih =>
        intro start total
        have hrest := ih (start + 1) total
        simp only [List.mapIdx_cons, fieldsLength_cons, List.flatten_cons, List.length_append,
          List.length_cons, Nat.succ_mul]
        simp only [Nat.add_assoc, Nat.add_comm 1] at hrest
        rw [hrest]
        simp only [encodedLength, overhead]
        omega
  simpa only [parts, Nat.zero_add] using key 0 pieces.length

/-- A cut never saves a byte. -/
theorem Yields.le_fieldsLength (h : f.Yields limit items) :
    f.encodedLength ≤ fieldsLength items := by
  rcases h with ⟨-, rfl⟩ | ⟨-, pieces, htwo, -, -, hflat, rfl⟩
  · exact Nat.le_refl _
  · rw [fieldsLength_parts, hflat, encodedLength]
    have hmul := Nat.le_mul_of_pos_left f.overhead (Nat.lt_of_lt_of_le Nat.zero_lt_two htwo)
    omega

end Field

/-! ### The items of a run of fields -/

section Items

variable {limit : Nat} {fields : List Field} {items : List (List Field)}

/-- A run of fields is no longer than what it yields. -/
theorem fieldsLength_le_of_yields (h : List.Forall₂ (Field.Yields limit) fields items) :
    fieldsLength fields ≤ fieldsLength items.flatten := by
  induction h with
  | nil => exact Nat.le_refl _
  | cons hf _ ih =>
      have hfirst := hf.le_fieldsLength
      rw [List.flatten_cons, fieldsLength_append, fieldsLength_cons]
      omega

/-- A run of fields within the limit yields itself. -/
theorem flatten_of_yields (h : List.Forall₂ (Field.Yields limit) fields items)
    (hfit : fieldsLength fields ≤ limit) : items.flatten = fields := by
  induction h with
  | nil => rfl
  | cons hf _ ih =>
      rw [fieldsLength_cons] at hfit
      rcases hf with ⟨-, rfl⟩ | ⟨hlong, -⟩
      · rw [List.flatten_cons, ih (by omega), List.singleton_append]
      · omega

end Items

/-! ### Packing -/

section Pack

variable {limit : Nat} {current items frag : List Field}

theorem of_mem_packOnto (hcurrent : fieldsLength current ≤ limit)
    (hitems : ∀ item ∈ items, item.encodedLength ≤ limit)
    (h : frag ∈ packOnto limit current items) : frag ≠ [] ∧ fieldsLength frag ≤ limit := by
  -- What is open changes with every item, and never exceeds the limit.
  induction items generalizing current with
  | nil =>
      unfold packOnto at h
      by_cases hempty : current = []
      · rw [if_pos hempty] at h
        cases h
      · rw [if_neg hempty, List.mem_singleton] at h
        subst h
        exact ⟨hempty, hcurrent⟩
  | cons item items ih =>
      have hitem := hitems item (List.mem_cons_self ..)
      have hrest := fun g hg => hitems g (List.mem_cons_of_mem _ hg)
      unfold packOnto at h
      split at h
      · -- The open fragment is closed, and the item alone begins the next.
        rename_i hfull
        rcases List.mem_cons.1 h with rfl | h
        · exact ⟨hfull.1, hcurrent⟩
        · exact ih (by simpa using hitem) hrest h
      · rename_i hroom
        refine ih ?_ hrest h
        rw [fieldsLength_append, fieldsLength_cons, fieldsLength_nil, Nat.add_zero]
        by_cases hempty : current = []
        · rw [hempty, fieldsLength_nil, Nat.zero_add]
          exact hitem
        · exact Nat.le_of_not_lt (fun hfull => hroom ⟨hempty, hfull⟩)

/-- A fragment is not empty, and it fits if its items do. -/
theorem of_mem_pack (hitems : ∀ item ∈ items, item.encodedLength ≤ limit)
    (h : frag ∈ pack limit items) : frag ≠ [] ∧ fieldsLength frag ≤ limit := by
  have hstart : fieldsLength [] ≤ limit := Nat.zero_le limit
  exact of_mem_packOnto hstart hitems h

/-- Items that fit into the fragment that is open go there. -/
theorem packOnto_append {group : List Field} (h : fieldsLength (current ++ group) ≤ limit)
    (items : List Field) :
    packOnto limit current (group ++ items) = packOnto limit (current ++ group) items := by
  induction group generalizing current with
  | nil => rw [List.nil_append, List.append_nil]
  | cons item group ih =>
      have happend : current ++ item :: group = current ++ [item] ++ group := by simp
      have hroom : fieldsLength current + item.encodedLength ≤ limit := by
        rw [fieldsLength_append, fieldsLength_cons] at h
        omega
      rw [List.cons_append, packOnto, if_neg (fun hfull => Nat.not_lt.2 hroom hfull.2), happend]
      exact ih (happend ▸ h)

theorem packOnto_of_le (h : fieldsLength (current ++ items) ≤ limit) (hne : current ++ items ≠ []) :
    packOnto limit current items = [current ++ items] := by
  have hall := packOnto_append h []
  rw [List.append_nil, packOnto, if_neg hne] at hall
  exact hall

/-- Items within the limit are one fragment. -/
theorem pack_of_le (hne : items ≠ []) (h : fieldsLength items ≤ limit) :
    pack limit items = [items] := by
  have hstart : fieldsLength ([] ++ items) ≤ limit := h
  exact packOnto_of_le hstart hne

end Pack

/-! ### Fragments -/

section Fragments

variable {limit : Nat} {fields : List Field} {frags : List (List Field)}

/-- There are fragments unless some field cannot be cut. -/
theorem fragments_eq_error_iff :
    (∃ e, fragments limit fields = .error e) ↔ ∃ f ∈ fields, f.CannotBeCut limit := by
  simp only [← Field.split_eq_error_iff, ← mapM_eq_error_iff]
  unfold fragments splitFields
  cases fields.mapM (Field.split limit) with
  | error e => simp only [bind, Except.bind]
  | ok parts => simp only [bind, Except.bind, pure, Except.pure, reduceCtorEq, exists_false]

/-- Fragments are the packed items of the fields. -/
theorem of_fragments_eq_ok (h : fragments limit fields = .ok frags) :
    ∃ items, List.Forall₂ (fun f parts => f.split limit = .ok parts) fields items ∧
      frags = pack limit items.flatten := by
  unfold fragments splitFields at h
  cases hitems : fields.mapM (Field.split limit) with
  | error e => simp only [hitems, bind, Except.bind, reduceCtorEq] at h
  | ok items =>
      simp only [hitems, bind, Except.bind, pure, Except.pure, Except.ok.injEq] at h
      exact ⟨items, mapM_eq_ok_iff.1 hitems, h.symm⟩

/-- No fragment is empty or too long. -/
theorem of_mem_fragments (h : fragments limit fields = .ok frags) {frag : List Field}
    (hfrag : frag ∈ frags) : frag ≠ [] ∧ fieldsLength frag ≤ limit := by
  rcases of_fragments_eq_ok h with ⟨items, hsplit, rfl⟩
  refine of_mem_pack (fun item hi => ?_) hfrag
  rcases List.mem_flatten.1 hi with ⟨parts, hparts, hitem⟩
  rcases List.forall₂_iff_get.1 hsplit with ⟨hlen, hget⟩
  rcases List.getElem_of_mem hparts with ⟨i, hlt, rfl⟩
  exact Field.encodedLength_le_of_split (hget i (hlen ▸ hlt) hlt) hitem

/-- The fragments hold what the fields yield, in order. -/
theorem yields_of_fragments (h : fragments limit fields = .ok frags) :
    ∃ items, List.Forall₂ (Field.Yields limit) fields items ∧ frags.flatten = items.flatten := by
  rcases of_fragments_eq_ok h with ⟨items, hsplit, rfl⟩
  exact ⟨items, hsplit.imp (fun _ _ hf => Field.yields_of_split hf), flatten_pack limit _⟩

/-- A run that is not too long as a whole is the one fragment that it makes. -/
theorem fragments_of_le (h : fragments limit fields = .ok frags) (hne : fields ≠ [])
    (hfit : fieldsLength fields ≤ limit) : frags = [fields] := by
  rcases of_fragments_eq_ok h with ⟨items, hsplit, rfl⟩
  have hyields := hsplit.imp (fun _ _ hf => Field.yields_of_split hf)
  rw [flatten_of_yields hyields hfit]
  exact pack_of_le hne hfit

/-- A run that makes one fragment is not too long as a whole. -/
theorem fieldsLength_le_of_fragments (h : fragments limit fields = .ok frags)
    (hone : frags.length = 1) : fieldsLength fields ≤ limit := by
  rcases List.length_eq_one_iff.1 hone with ⟨frag, rfl⟩
  -- That the one fragment fits is all there is to go by: nothing is known of the cuts yet.
  rcases yields_of_fragments h with ⟨items, hyields, hflat⟩
  rw [List.flatten_singleton] at hflat
  calc fieldsLength fields
      ≤ fieldsLength items.flatten := fieldsLength_le_of_yields hyields
    _ = fieldsLength frag := by rw [hflat]
    _ ≤ limit := (of_mem_fragments h (List.mem_singleton_self frag)).2

/-- What fragments are. There are none exactly when a field does not fit and
    cannot be cut. Otherwise no fragment is empty, each takes as many bytes as
    it says and no more than the limit, and together they hold field by field
    what each yields, in order. A run that is not empty makes one fragment
    exactly when it needs none, and that one holds the fields as they are. -/
theorem fragments_exact (limit : Nat) (fields : List Field) :
    ((∃ e, fragments limit fields = .error e) ↔
      ∃ f ∈ fields, limit < f.encodedLength ∧
        (limit ≤ f.overhead ∨ maxParts < f.data.length ⌈/⌉ (limit - f.overhead))) ∧
    ∀ frags, fragments limit fields = .ok frags →
      (∀ frag ∈ frags, frag ≠ [] ∧ fieldsLength frag = (encodeFields frag).length ∧
        fieldsLength frag ≤ limit) ∧
      (∃ items, List.Forall₂ (Field.Yields limit) fields items ∧
        frags.flatten = items.flatten) ∧
      (fields ≠ [] →
        (needsFragments limit fields = false ↔ frags.length = 1) ∧
        (frags.length = 1 → frags = [fields])) := by
  refine ⟨fragments_eq_error_iff, fun frags h => ⟨?_, yields_of_fragments h, fun hne => ?_⟩⟩
  · intro frag hfrag
    rcases of_mem_fragments h hfrag with ⟨hnil, hfit⟩
    exact ⟨hnil, (length_encodeFields frag).symm, hfit⟩
  · -- Needing no fragments and fitting into one are the same.
    have hneeds : needsFragments limit fields = false ↔ fieldsLength fields ≤ limit := by
      rw [needsFragments, decide_eq_false_iff_not, Nat.not_lt]
    rw [hneeds]
    refine ⟨⟨fun hfit => ?_, fieldsLength_le_of_fragments h⟩, fun hone => ?_⟩
    · rw [fragments_of_le h hne hfit, List.length_singleton]
    · exact fragments_of_le h hne (fieldsLength_le_of_fragments h hone)

end Fragments

end RoverDispatch
