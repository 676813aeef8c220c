import Mathlib
import RoverDispatch.Proofs.Wire.FieldTables
import RoverDispatch.Proofs.Wire.Values
import RoverDispatch.Wire.Datagram

/-!
# Payloads on the Wire

Reading a payload gives back what writing it made, and whatever can be read
can be written.

Numbers in the model have no bounds, texts and lists no longest one, and a
fault may carry the number of a fault that has a name. `Payload.Fits` says of
a payload that none of this happens to it: words hold its numbers, prefixes
hold its lengths, and its fault is the one that its number stands for. Under
this condition a payload survives its fields, the fields survive their bytes,
and the table that is filled from them answers for every name.

The other direction needs no condition on the bytes. A number that was read
came out of a word, so it is in range. A length that was read came out of a
prefix that was not negative, and the data behind it came out of a field,
whose own prefix bounds it once more. Every reader therefore answers with
something that fits, and that is all that writing asks for.

## Main definitions

* `Progress.Fits`, `Ack.Fits`, `ErrorReport.Fits`, `Payload.Fits`: The words of
  the format can hold a payload.
* `Payload.LengthsFit`: The prefixes of fields can hold its lengths.
* `FieldTable.Fits`: The words of the format can hold the data of a table.

## Theorems

* `Value.readInts_ints`: A list of numbers is read back.
* `Value.of_readInt`, `Value.of_readText`, `Value.of_readInts`: What is read
  fits.
* `FieldTable.ofFields_of_isWhole`: Whole fields of different names make a
  table that holds them.
* `FieldTable.fits_of_ofFields`: The table of fields that were read fits.
* `Schema.read_of_holds`: A payload is read from a table that holds its fields.
* `Schema.fits_of_read`: What is read from a table that fits, fits.
* `Payload.decode_encode`: A payload that fits is read back.
* `Payload.fits_of_decode`: Only payloads that fit are read.
-/

namespace RoverDispatch

/-! ### Values -/

namespace Value

variable {data : Bytes}

theorem readBool_bool (b : Bool) : readBool (bool b) = .ok b := by
  cases b <;> rfl

theorem length_int (w : Nat) (i : Int) : (int w i).length = w := Word.length_be w _

theorem toSigned_int {w : Nat} {i : Int} (h : Word.InRange w i) :
    Word.toSigned w (Word.ofBe (int w i)) = i := by
  rw [int, Word.ofBe_be, Nat.mod_eq_of_lt (Word.ofSigned_lt w i), Word.toSigned_ofSigned h]

/-- A word is split off from the front of the bytes. -/
theorem splitInts_append (i : Int) (rest : Bytes) :
    splitInts (int 4 i ++ rest) = Word.toSigned 4 (Word.ofBe (int 4 i)) :: splitInts rest :=
  rfl

/-- Numbers in range are split off from their words one by one. -/
theorem splitInts_flatMap {is : List Int} (h : ∀ i ∈ is, Word.InRange 4 i) :
    splitInts (is.flatMap (int 4)) = is := by
  induction is with
  | nil => rfl
  | cons i is ih =>
      rw [List.flatMap_cons, splitInts_append, toSigned_int (h i (List.mem_cons_self ..)),
        ih (fun j hj => h j (List.mem_cons_of_mem _ hj))]

theorem length_flatMap_int (is : List Int) : (is.flatMap (int 4)).length = is.length * 4 := by
  induction is with
  | nil => rfl
  | cons i is ih =>
      rw [List.flatMap_cons, List.length_append, ih, length_int, List.length_cons]
      omega

/-- What was split off is in range, and there is one number for every four
    bytes. -/
theorem of_splitInts (bs : Bytes) :
    (splitInts bs).length * 4 ≤ bs.length ∧ ∀ i ∈ splitInts bs, Word.InRange 4 i := by
  fun_induction splitInts bs with
  | case1 a b c d rest ih =>
      refine ⟨?_, ?_⟩
      · simp only [List.length_cons]
        omega
      · intro i hi
        rcases List.mem_cons.1 hi with rfl | hi
        · exact Word.inRange_toSigned (Word.ofBe_lt [a, b, c, d])
        · exact ih.2 i hi
  | case2 => exact ⟨Nat.zero_le _, nofun⟩

theorem readInts_ints {is : List Int} (hlen : 2 * is.length < Word.size 4)
    (h : ∀ i ∈ is, Word.InRange 4 i) : readInts (ints is) = .ok is := by
  simp only [readInts, ints, readCount_append hlen, bind, Except.bind, length_flatMap_int, ne_eq,
    not_true_eq_false, if_false, splitInts_flatMap h]
  rfl

/-- A number that was read is in range. -/
theorem of_readInt {w : Nat} {i : Int} (h : readInt w data = .ok i) : Word.InRange w i := by
  rw [readInt, ofWidth] at h
  split at h
  · rename_i hlen
    cases h
    exact Word.inRange_toSigned (hlen ▸ Word.ofBe_lt data)
  · cases h

/-- A length that was read is below half the range of its word, and what
    follows it is the rest of the data. -/
theorem of_readCount {n : Nat} {rest : Bytes} (h : readCount data = .ok (n, rest)) :
    2 * n < Word.size 4 ∧ rest.length + 4 = data.length := by
  simp only [readCount] at h
  split at h
  · cases h
  · rename_i hlen
    have hword : (data.take 4).length = 4 := by
      rw [List.length_take] at hlen ⊢
      omega
    -- A word of four bytes is within its range, so a length that is not negative is small.
    have hrange := Word.inRange_toSigned (hword ▸ Word.ofBe_lt (data.take 4))
    rw [Word.InRange] at hrange
    split at h
    · cases h
    · cases h
      rw [List.length_take] at hword
      rw [List.length_drop]
      omega

/-- A text that was read is short enough for its prefix. -/
theorem of_readText {s : String} (h : readText data = .ok s) : s.utf8ByteSize < 2 ^ 31 := by
  rcases exists_of_bind_eq_ok h with ⟨⟨n, rest⟩, hcount, h⟩
  have hn := (of_readCount hcount).1
  rw [Word.size_four] at hn
  simp only at h
  split at h
  · cases h
  · rename_i hlen
    split at h
    · rename_i s' hs
      cases h
      -- The text has as many bytes as the prefix says.
      rw [← length_textBytes, textBytes_of_textOfBytes? hs]
      omega
    · cases h

/-- A list that was read is short enough for its prefix and for the data, and
    its numbers are in range. -/
theorem of_readInts {is : List Int} (h : readInts data = .ok is) :
    is.length < 2 ^ 31 ∧ is.length * 4 + 4 ≤ data.length ∧ ∀ i ∈ is, Word.InRange 4 i := by
  rcases exists_of_bind_eq_ok h with ⟨⟨n, rest⟩, hcount, h⟩
  rcases of_readCount hcount with ⟨hn, hrest⟩
  rw [Word.size_four] at hn
  simp only at h
  split at h
  · cases h
  · rename_i hlen
    cases h
    have hsplit := of_splitInts rest
    exact ⟨by omega, by omega, hsplit.2⟩

end Value

/-! ### Tables -/

namespace FieldTable

/-- The words of the format can hold the data of a table. -/
def Fits (t : FieldTable) : Prop := ∀ name data, t.find? name = some data →
  data.length < Word.size 4

variable {t : FieldTable} {name : String}

/-- A value that was read is the reading of the data under its name. -/
theorem of_read {α : Type} {reader : Bytes → Except Defect α} {value : α}
    (h : t.read name reader = .ok value) :
    ∃ data, t.find? name = some data ∧ reader data = .ok value := by
  rcases exists_of_bind_eq_ok h with ⟨data, hraw, h⟩
  rw [raw] at hraw
  split at hraw
  · rename_i hfind
    cases hraw
    split at h
    · rename_i hread
      cases h
      exact ⟨_, hfind, hread⟩
    · cases h
  · cases hraw

theorem of_int32 {i : Int} (h : t.int32 name = .ok i) : Word.InRange 4 i := by
  rcases of_read h with ⟨data, -, hread⟩
  exact Value.of_readInt hread

theorem of_int64 {i : Int} (h : t.int64 name = .ok i) : Word.InRange 8 i := by
  rcases of_read h with ⟨data, -, hread⟩
  exact Value.of_readInt hread

theorem of_text {s : String} (h : t.text name = .ok s) : s.utf8ByteSize < 2 ^ 31 := by
  rcases of_read h with ⟨data, -, hread⟩
  exact Value.of_readText hread

theorem bool_of_holds {b : Bool} (h : t.Holds (.bool name b)) : t.bool name = .ok b :=
  read_of_holds h (Value.readBool_bool b)

theorem ints_of_holds {is : List Int} (h : t.Holds (.ints name is)) (hlen : is.length < 2 ^ 31)
    (hi : ∀ i ∈ is, Word.InRange 4 i) : t.ints name = .ok is :=
  read_of_holds h (Value.readInts_ints (by rw [Word.size_four]; omega) hi)

/-- Whole fields of different names make a table that holds them. -/
theorem ofFields_of_isWhole {fields : List Field} (hwhole : ∀ f ∈ fields, f.IsWhole)
    (hd : (fields.map Field.name).Nodup) :
    ∃ t, ofFields fields = .ok t ∧ ∀ f ∈ fields, t.Holds f := by
  refine holds_of_foldlM (fun f hf t => ?_) hd
  rw [add, Field.isSplit, (hwhole f hf).2]
  rfl

/-- The table of fields that were read fits. -/
theorem fits_of_ofFields {fields : List Field} {t : FieldTable} (h : ofFields fields = .ok t)
    (hfields : ∀ f ∈ fields, f.data.length < Word.size 4) : t.Fits := by
  intro name data hfind
  rw [find?_ofFields h] at hfind
  rcases exists_of_lastData? hfind with ⟨f, hf, -, rfl⟩
  exact hfields f hf

end FieldTable

/-! ### Payloads -/

/-- The words of the format can hold progress. -/
def Progress.Fits (p : Progress) : Prop := Word.InRange 4 p.mission ∧ Word.InRange 8 p.elapsed

/-- The words of the format can hold an acknowledgement: the prefix of the list
    its length, and the prefix of the field all of its data. -/
def Ack.Fits (a : Ack) : Prop :=
  a.missing.length < 2 ^ 31 ∧ (Value.ints a.missing).length < 2 ^ 32 ∧
    ∀ i ∈ a.missing, Word.InRange 4 i

/-- The words of the format can hold an error report, and its fault is the one
    that its number stands for. -/
def ErrorReport.Fits (e : ErrorReport) : Prop :=
  Word.InRange 4 e.mission ∧ Word.InRange 4 e.fault.code ∧ Fault.ofCode e.fault.code = e.fault ∧
    e.description.utf8ByteSize < 2 ^ 31 ∧ Word.InRange 8 e.timestamp

/-- The words of the format can hold a payload. -/
def Payload.Fits : Payload → Prop
  | empty => True
  | mission m => m.Fits
  | progress p => p.Fits
  | ack a => a.Fits
  | error e => e.Fits
  | fragment _ => True

instance (p : Progress) : Decidable p.Fits := inferInstanceAs (Decidable (_ ∧ _))

instance (a : Ack) : Decidable a.Fits := inferInstanceAs (Decidable (_ ∧ _))

instance (e : ErrorReport) : Decidable e.Fits := inferInstanceAs (Decidable (_ ∧ _))

instance (p : Payload) : Decidable p.Fits :=
  match p with
  | .empty => inferInstanceAs (Decidable True)
  | .mission m => inferInstanceAs (Decidable m.Fits)
  | .progress p => inferInstanceAs (Decidable p.Fits)
  | .ack a => inferInstanceAs (Decidable a.Fits)
  | .error e => inferInstanceAs (Decidable e.Fits)
  | .fragment _ => inferInstanceAs (Decidable True)

/-- The number of the fault that a number stands for is this number. -/
theorem Fault.code_ofCode (code : Int) : (ofCode code).code = code := by
  simp only [ofCode]
  split_ifs <;> first | rfl | exact Eq.symm ‹_›

namespace Payload

variable {p : Payload} {s : Schema} {t : FieldTable}

/-- The fields of a payload have the names of its schema. -/
theorem map_name_toFields (h : p.tag = s.tag) : p.toFields.map Field.name = s.fieldNames := by
  cases p <;> cases s <;> first | rfl | cases h

/-- The names of a schema are different, and short enough for their prefix. -/
theorem fieldNames_valid (s : Schema) :
    s.fieldNames.Nodup ∧ ∀ name ∈ s.fieldNames, name.utf8ByteSize < Word.size 2 := by
  cases s <;> decide

/-- The fields of a payload are whole. -/
theorem isWhole_of_mem_toFields : ∀ f ∈ p.toFields, f.IsWhole := by
  cases p with
  | mission m => exact fun f => Mission.isWhole_of_mem_toFields
  | _ =>
      simp only [toFields, Progress.toFields, Ack.toFields, ErrorReport.toFields,
        List.forall_mem_cons, Field.IsWhole, Field.int32, Field.int64, Field.single, Field.text,
        Field.ints, Field.bool, and_self, List.not_mem_nil, false_implies, implies_true]

/-- The prefixes of fields can hold the lengths of a payload. Neither its
    numbers nor its fault need to be ones that can be read back. -/
def LengthsFit (p : Payload) : Prop := ∀ f ∈ p.toFields, f.data.length < Word.size 4

instance (p : Payload) : Decidable p.LengthsFit := inferInstanceAs (Decidable (∀ f ∈ _, _))

/-- The prefixes of fields hold the lengths of a payload that fits. -/
theorem Fits.lengthsFit (h : p.Fits) : p.LengthsFit := by
  cases p with
  | mission m => exact fun f hf => (Mission.fits_of_mem_toFields h hf).2.1
  | empty => exact List.forall_mem_nil _
  | fragment bytes => exact List.forall_mem_nil _
  | progress p =>
      simp only [LengthsFit, toFields, Progress.toFields, List.forall_mem_cons, Field.int32,
        Field.int64, Field.single, Value.int, Value.single, Word.length_be, Word.size_four]
      exact ⟨by decide, by decide, by decide, List.forall_mem_nil _⟩
  | ack a =>
      simp only [LengthsFit, toFields, Ack.toFields, List.forall_mem_cons, Field.int32, Field.ints,
        Field.bool, Value.int, Value.bool, Word.length_be, Word.size_four, List.length_singleton]
      exact ⟨by decide, h.2.1, by decide, List.forall_mem_nil _⟩
  | error e =>
      -- The description is the only one of the fields that has no fixed width.
      have htext := h.2.2.2.1
      simp only [LengthsFit, toFields, ErrorReport.toFields, List.forall_mem_cons, Field.int32,
        Field.int64, Field.single, Field.text, Value.int, Value.single, Value.text,
        List.length_append, Word.length_be, length_textBytes, Word.size_four]
      exact ⟨by decide, by decide, by omega, by decide, by decide, by decide, by decide, by decide,
        List.forall_mem_nil _⟩

/-- The words of the format can hold the fields of a payload whose lengths
    fit. -/
theorem LengthsFit.fits (h : p.LengthsFit) (htag : p.tag = s.tag) : ∀ f ∈ p.toFields, f.Fits := by
  intro f hf
  refine (isWhole_of_mem_toFields f hf).fits ?_ (h f hf)
  refine (fieldNames_valid s).2 f.name ?_
  rw [← map_name_toFields htag]
  exact List.mem_map_of_mem hf

end Payload

theorem Progress.read_of_holds {p : Progress} (h : p.Fits) {t : FieldTable}
    (ht : ∀ f ∈ p.toFields, t.Holds f) : Progress.read t = .ok p := by
  rcases h with ⟨hmission, helapsed⟩
  simp only [toFields, List.forall_mem_cons] at ht
  rcases ht with ⟨h1, h2, h3, -⟩
  simp only [Progress.read, FieldTable.int32_of_holds h1 hmission,
    FieldTable.int64_of_holds h2 helapsed, FieldTable.single_of_holds h3, bind, Except.bind]
  rfl

theorem Ack.read_of_holds {a : Ack} (h : a.Fits) {t : FieldTable}
    (ht : ∀ f ∈ a.toFields, t.Holds f) : Ack.read t = .ok a := by
  rcases h with ⟨hlen, -, hmissing⟩
  simp only [toFields, List.forall_mem_cons] at ht
  rcases ht with ⟨h1, h2, h3, -⟩
  have hcount : Word.InRange 4 (a.missing.length : Int) := by
    rw [Word.InRange, Word.size_four]
    omega
  simp only [Ack.read, FieldTable.int32_of_holds h1 hcount,
    FieldTable.ints_of_holds h2 hlen hmissing, FieldTable.bool_of_holds h3, bind, Except.bind,
    ne_eq, not_true_eq_false, if_false]
  rfl

theorem ErrorReport.read_of_holds {e : ErrorReport} (h : e.Fits) {t : FieldTable}
    (ht : ∀ f ∈ e.toFields, t.Holds f) : ErrorReport.read t = .ok e := by
  rcases h with ⟨hmission, hcode, hfault, hdescription, htimestamp⟩
  simp only [toFields, List.forall_mem_cons] at ht
  rcases ht with ⟨h1, h2, h3, h4, h5, h6, h7, h8, -⟩
  simp only [ErrorReport.read, FieldTable.int32_of_holds h1 hmission,
    FieldTable.int32_of_holds h2 hcode, FieldTable.text_of_holds h3 hdescription,
    FieldTable.single_of_holds h4, FieldTable.single_of_holds h5, FieldTable.single_of_holds h6,
    FieldTable.single_of_holds h7, FieldTable.int64_of_holds h8 htimestamp, bind, Except.bind,
    hfault]
  rfl

theorem Mission.fits_of_read {m : Mission} {t : FieldTable} (h : Mission.read t = .ok m) :
    m.Fits := by
  rcases exists_of_bind_eq_ok h with ⟨id, hid, h⟩
  rcases exists_of_bind_eq_ok h with ⟨x1, -, h⟩
  rcases exists_of_bind_eq_ok h with ⟨y1, -, h⟩
  rcases exists_of_bind_eq_ok h with ⟨x2, -, h⟩
  rcases exists_of_bind_eq_ok h with ⟨y2, -, h⟩
  rcases exists_of_bind_eq_ok h with ⟨task, htask, h⟩
  rcases exists_of_bind_eq_ok h with ⟨duration, hduration, h⟩
  rcases exists_of_bind_eq_ok h with ⟨updateInterval, hinterval, h⟩
  rcases exists_of_bind_eq_ok h with ⟨startTime, hstart, h⟩
  rcases exists_of_bind_eq_ok h with ⟨priority, hpriority, h⟩
  -- Only what has a bound is kept: the coordinates can be any numbers.
  cases h
  exact ⟨FieldTable.of_int32 hid, FieldTable.of_text htask, FieldTable.of_int64 hduration,
    FieldTable.of_int64 hinterval, FieldTable.of_int64 hstart, FieldTable.of_int32 hpriority⟩

theorem Progress.fits_of_read {p : Progress} {t : FieldTable} (h : Progress.read t = .ok p) :
    p.Fits := by
  rcases exists_of_bind_eq_ok h with ⟨mission, hmission, h⟩
  rcases exists_of_bind_eq_ok h with ⟨elapsed, helapsed, h⟩
  rcases exists_of_bind_eq_ok h with ⟨percent, -, h⟩
  cases h
  exact ⟨FieldTable.of_int32 hmission, FieldTable.of_int64 helapsed⟩

theorem Ack.fits_of_read {a : Ack} {t : FieldTable} (ht : t.Fits) (h : Ack.read t = .ok a) :
    a.Fits := by
  rcases exists_of_bind_eq_ok h with ⟨count, -, h⟩
  rcases exists_of_bind_eq_ok h with ⟨missing, hmissing, h⟩
  split at h
  · cases h
  · rcases exists_of_bind_eq_ok h with ⟨final, -, h⟩
    cases h
    -- The data came out of a field, so the list is short enough to be one again.
    rcases FieldTable.of_read hmissing with ⟨data, hfind, hread⟩
    rcases Value.of_readInts hread with ⟨hlen, hdata, hrange⟩
    have hfits := ht _ _ hfind
    rw [Word.size_four] at hfits
    refine ⟨hlen, ?_, hrange⟩
    simp only [Value.ints, List.length_append, Word.length_be, Value.length_flatMap_int]
    omega

theorem ErrorReport.fits_of_read {e : ErrorReport} {t : FieldTable}
    (h : ErrorReport.read t = .ok e) : e.Fits := by
  rcases exists_of_bind_eq_ok h with ⟨mission, hmission, h⟩
  rcases exists_of_bind_eq_ok h with ⟨code, hcode, h⟩
  rcases exists_of_bind_eq_ok h with ⟨description, hdescription, h⟩
  rcases exists_of_bind_eq_ok h with ⟨progress, -, h⟩
  rcases exists_of_bind_eq_ok h with ⟨battery, -, h⟩
  rcases exists_of_bind_eq_ok h with ⟨x, -, h⟩
  rcases exists_of_bind_eq_ok h with ⟨y, -, h⟩
  rcases exists_of_bind_eq_ok h with ⟨timestamp, htimestamp, h⟩
  cases h
  -- The fault was chosen by its number, so it is the one that the number stands for.
  refine ⟨FieldTable.of_int32 hmission, ?_, ?_, FieldTable.of_text hdescription,
    FieldTable.of_int64 htimestamp⟩
  · rw [Fault.code_ofCode]
    exact FieldTable.of_int32 hcode
  · rw [Fault.code_ofCode]

namespace Schema

variable {s : Schema} {p : Payload} {t : FieldTable}

/-- A payload is read from a table that holds its fields. -/
theorem read_of_holds (h : p.Fits) (htag : p.tag = s.tag) (ht : ∀ f ∈ p.toFields, t.Holds f) :
    s.read t = .ok p := by
  cases s with
  | mission =>
      cases p with
      | mission m => rw [read, Mission.read_of_holds h ht, Except.map]
      | _ => cases htag
  | progress =>
      cases p with
      | progress p => rw [read, Progress.read_of_holds h ht, Except.map]
      | _ => cases htag
  | ack =>
      cases p with
      | ack a => rw [read, Ack.read_of_holds h ht, Except.map]
      | _ => cases htag
  | error =>
      cases p with
      | error e => rw [read, ErrorReport.read_of_holds h ht, Except.map]
      | _ => cases htag

/-- What is read from a table that fits, fits, and it is a payload of the
    schema. -/
theorem fits_of_read (ht : t.Fits) (h : s.read t = .ok p) : p.Fits ∧ p.tag = s.tag := by
  cases s with
  | mission =>
      rcases exists_of_map_eq_ok h with ⟨m, hm, rfl⟩
      exact ⟨Mission.fits_of_read hm, rfl⟩
  | progress =>
      rcases exists_of_map_eq_ok h with ⟨p, hp, rfl⟩
      exact ⟨Progress.fits_of_read hp, rfl⟩
  | ack =>
      rcases exists_of_map_eq_ok h with ⟨a, ha, rfl⟩
      exact ⟨Ack.fits_of_read ht ha, rfl⟩
  | error =>
      rcases exists_of_map_eq_ok h with ⟨e, he, rfl⟩
      exact ⟨ErrorReport.fits_of_read he, rfl⟩

/-- A payload of the schema is read back from the bytes of its fields. -/
theorem decode_encodeFields (h : p.Fits) (htag : p.tag = s.tag) :
    s.decode (encodeFields p.toFields) = .ok p := by
  have hd : (p.toFields.map Field.name).Nodup := by
    rw [Payload.map_name_toFields htag]
    exact (Payload.fieldNames_valid s).1
  rcases FieldTable.ofFields_of_isWhole Payload.isWhole_of_mem_toFields hd with ⟨t, ht, hholds⟩
  simp only [decode, decodeFields_encodeFields (h.lengthsFit.fits htag), ht, bind,
    Except.bind]
  exact read_of_holds h htag hholds

theorem fits_of_decode {bs : Bytes} (h : s.decode bs = .ok p) : p.Fits ∧ p.tag = s.tag := by
  rcases exists_of_bind_eq_ok h with ⟨fields, hfields, h⟩
  rcases exists_of_bind_eq_ok h with ⟨t, ht, h⟩
  -- The fields fit, since they were read, and so does the table of their data.
  have hfits := (decodeFields_eq_ok_iff.1 hfields).1
  exact fits_of_read (FieldTable.fits_of_ofFields ht fun f hf => (hfits f hf).2.1) h

end Schema

namespace Payload

variable {p : Payload}

/-- A payload that fits is read back. -/
theorem decode_encode (h : p.Fits) : decode p.tag p.encode = .ok p := by
  cases p with
  | empty => rfl
  | fragment bytes => rfl
  | mission m => exact Schema.decode_encodeFields (s := .mission) h rfl
  | progress p => exact Schema.decode_encodeFields (s := .progress) h rfl
  | ack a => exact Schema.decode_encodeFields (s := .ack) h rfl
  | error e => exact Schema.decode_encodeFields (s := .error) h rfl

/-- Only payloads that fit are read, and only those that were announced. -/
theorem fits_of_decode {tag : PayloadTag} {bs : Bytes} (h : decode tag bs = .ok p) :
    p.Fits ∧ p.tag = tag := by
  cases tag with
  | empty =>
      cases h
      exact ⟨trivial, rfl⟩
  | fragment =>
      cases h
      exact ⟨trivial, rfl⟩
  | mission => exact Schema.fits_of_decode (s := .mission) h
  | progress => exact Schema.fits_of_decode (s := .progress) h
  | ack => exact Schema.fits_of_decode (s := .ack) h
  | error => exact Schema.fits_of_decode (s := .error) h

end Payload

end RoverDispatch
