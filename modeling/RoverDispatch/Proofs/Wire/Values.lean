import Mathlib
import RoverDispatch.Proofs.Wire.Fields
import RoverDispatch.Wire.Schema

/-!
# Values on the Wire

Reading a value gives back what writing it made, and so does reading a mission
from a table that holds the data of its fields.

Numbers in the model have no bounds and words do, so each law asks that the
word can hold the value. `Mission.Fits` collects these conditions for a
mission: its numbers fit their words, and the length of its task fits the
signed word in front of the text.

A mission is read by name. `Mission.read_of_holds` therefore asks only what
the table holds under each name, and says nothing about how the table was
filled: from whole fields of one message, or from parts put together.

## Main definitions

* `Mission.Fits`: The words of the format can hold a mission.
* `Field.IsWhole`: A field that was not cut.
* `FieldTable.Holds`: A table holds the data of a field under its name.

## Theorems

* `Value.readInt_int`: A number in range is read back.
* `Value.readSingle_single`: A single-precision number is read back.
* `Value.readText_text`: A text is read back.
* `Mission.fits_of_mem_toFields`: The words can hold the fields of a mission.
* `Mission.names_nodup`: The fields of a mission have different names.
* `FieldTable.read_of_holds`: What a table holds is read by the reader asked for.
* `FieldTable.holds_of_foldlM`: A table filled with fields of different names
  holds them all.
* `Mission.read_of_holds`: A mission is read from a table that holds its fields.
-/

namespace RoverDispatch

namespace Value

theorem readInt_int {w : Nat} {i : Int} (h : Word.InRange w i) : readInt w (int w i) = .ok i := by
  have hmod : Word.ofSigned w i % Word.size w = Word.ofSigned w i :=
    Nat.mod_eq_of_lt (Word.ofSigned_lt w i)
  simp only [readInt, ofWidth, int, Word.length_be, if_true, bind, Except.bind, Word.ofBe_be, hmod,
    Word.toSigned_ofSigned h]
  rfl

theorem readSingle_single (x : Single) : readSingle (single x) = .ok x := by
  have hmod : x.bits.toNat % Word.size 4 = x.bits.toNat := Nat.mod_eq_of_lt x.bits.toNat_lt
  simp only [readSingle, ofWidth, single, Word.length_be, if_true, bind, Except.bind, Word.ofBe_be,
    hmod, UInt32.ofNat_toNat]
  rfl

/-- A length below half the range of its word is read back. -/
theorem readCount_append {n : Nat} (h : 2 * n < Word.size 4) (rest : Bytes) :
    readCount (Word.be 4 n ++ rest) = .ok (n, rest) := by
  have hmod : n % Word.size 4 = n := Nat.mod_eq_of_lt (by omega)
  simp only [readCount, List.take_left' (Word.length_be 4 n), List.drop_left' (Word.length_be 4 n),
    Word.length_be, Nat.lt_irrefl, if_false, Word.ofBe_be, hmod, Word.toSigned, if_pos h]
  rw [if_neg (by omega), Int.toNat_natCast]

theorem readText_text {s : String} (h : 2 * s.utf8ByteSize < Word.size 4) :
    readText (text s) = .ok s := by
  simp only [readText, text, readCount_append h, bind, Except.bind, length_textBytes, ne_eq,
    not_true_eq_false, if_false, textOfBytes?_textBytes]
  rfl

end Value

/-- A field that was not cut. -/
def Field.IsWhole (f : Field) : Prop := f.part = 0 ∧ f.total = 1

instance (f : Field) : Decidable f.IsWhole := inferInstanceAs (Decidable (_ ∧ _))

/-- A whole field fits if the prefixes hold its name and its data. -/
theorem Field.IsWhole.fits {f : Field} (h : f.IsWhole)
    (hname : f.name.utf8ByteSize < Word.size 2) (hdata : f.data.length < Word.size 4) : f.Fits := by
  rcases h with ⟨hpart, htotal⟩
  exact ⟨hname, hdata, by omega, by rw [htotal]; decide⟩

namespace FieldTable

/-- A table holds the data of a field under the name of the field. -/
def Holds (t : FieldTable) (f : Field) : Prop := t.find? f.name = some f.data

/-- What a table holds under a name is read by the reader that is asked
    for. -/
theorem read_of_holds {α : Type} {t : FieldTable} {f : Field} {value : α}
    {reader : Bytes → Except Defect α} (h : t.Holds f) (hread : reader f.data = .ok value) :
    t.read f.name reader = .ok value := by
  have hfind : t.find? f.name = some f.data := h
  simp only [read, raw, hfind, bind, Except.bind, hread]
  rfl

variable {t : FieldTable} {name : String}

theorem int32_of_holds {i : Int} (h : t.Holds (.int32 name i)) (hi : Word.InRange 4 i) :
    t.int32 name = .ok i :=
  read_of_holds h (Value.readInt_int hi)

theorem int64_of_holds {i : Int} (h : t.Holds (.int64 name i)) (hi : Word.InRange 8 i) :
    t.int64 name = .ok i :=
  read_of_holds h (Value.readInt_int hi)

theorem single_of_holds {x : Single} (h : t.Holds (.single name x)) : t.single name = .ok x :=
  read_of_holds h (Value.readSingle_single x)

theorem text_of_holds {s : String} (h : t.Holds (.text name s)) (hs : s.utf8ByteSize < 2 ^ 31) :
    t.text name = .ok s :=
  read_of_holds h (Value.readText_text (by rw [Word.size_four]; omega))

/-- A table into which fields of different names are put one after another
    holds them all. -/
theorem holds_of_foldlM {ε : Type} {fields : List Field}
    {step : FieldTable → Field → Except ε FieldTable}
    (hstep : ∀ f ∈ fields, ∀ t, step t f = .ok (t.insert f.name f.data))
    (hd : (fields.map Field.name).Nodup) :
    ∃ t, fields.foldlM step ∅ = .ok t ∧ ∀ f ∈ fields, t.Holds f := by
  -- The table grows from the front, and a later name never touches an earlier one.
  have key : ∀ start : FieldTable, ∃ t, fields.foldlM step start = .ok t ∧
      (∀ f ∈ fields, t.Holds f) ∧
      ∀ name, name ∉ fields.map Field.name → t.find? name = start.find? name := by
    induction fields with
    | nil => exact fun start => ⟨start, rfl, nofun, fun _ _ => rfl⟩
    | cons f fields ih =>
        intro start
        rw [List.map_cons, List.nodup_cons] at hd
        rcases ih (fun g hg => hstep g (List.mem_cons_of_mem _ hg)) hd.2
          (start.insert f.name f.data) with ⟨t, ht, hholds, hother⟩
        refine ⟨t, ?_, ?_, ?_⟩
        · rw [List.foldlM_cons, hstep f (List.mem_cons_self ..)]
          exact ht
        · intro g hg
          rcases List.mem_cons.1 hg with rfl | hg
          · -- Its name is different from those of the fields behind it.
            rw [Holds, hother _ hd.1, Table.find?_insert, if_pos rfl]
          · exact hholds g hg
        · intro name hname
          rw [List.map_cons, List.mem_cons, not_or] at hname
          rw [hother name hname.2, Table.find?_insert, if_neg hname.1]
  rcases key ∅ with ⟨t, ht, hholds, -⟩
  exact ⟨t, ht, hholds⟩

end FieldTable

namespace Mission

/-- The words of the format can hold a mission. -/
def Fits (m : Mission) : Prop :=
  Word.InRange 4 m.id ∧ m.task.utf8ByteSize < 2 ^ 31 ∧ Word.InRange 8 m.duration ∧
    Word.InRange 8 m.updateInterval ∧ Word.InRange 8 m.startTime ∧ Word.InRange 4 m.priority

instance (m : Mission) : Decidable m.Fits := inferInstanceAs (Decidable (_ ∧ _))

/-- The fields of a mission are whole. -/
theorem isWhole_of_mem_toFields {m : Mission} {f : Field} (hf : f ∈ m.toFields) : f.IsWhole := by
  simp only [toFields, List.mem_cons, List.not_mem_nil, or_false] at hf
  rcases hf with rfl | rfl | rfl | rfl | rfl | rfl | rfl | rfl | rfl | rfl <;> exact ⟨rfl, rfl⟩

/-- The names of the fields of a mission are those of its schema. -/
theorem map_name_toFields (m : Mission) : m.toFields.map Field.name = Schema.mission.fieldNames :=
  rfl

/-- The fields of a mission have different names. -/
theorem names_nodup (m : Mission) : (m.toFields.map Field.name).Nodup := by
  rw [map_name_toFields]
  decide

/-- The words of the format can hold the fields of a mission. -/
theorem fits_of_mem_toFields {m : Mission} (h : m.Fits) {f : Field} (hf : f ∈ m.toFields) :
    f.Fits := by
  have hname : f.name.utf8ByteSize < Word.size 2 := by
    -- The names are those of the schema, whatever the mission.
    have hmem : f.name ∈ Schema.mission.fieldNames := by
      rw [← map_name_toFields m]
      exact List.mem_map_of_mem hf
    exact (by decide : ∀ n ∈ Schema.mission.fieldNames, n.utf8ByteSize < Word.size 2) _ hmem
  have hdata : f.data.length < Word.size 4 := by
    rw [Word.size_four]
    -- Of all the fields only the task has no fixed width.
    have htask := h.2.1
    simp only [toFields, List.mem_cons, List.not_mem_nil, or_false] at hf
    rcases hf with rfl | rfl | rfl | rfl | rfl | rfl | rfl | rfl | rfl | rfl <;>
      simp only [Field.int32, Field.int64, Field.single, Field.text, Value.int, Value.single,
        Value.text, List.length_append, Word.length_be, length_textBytes] <;> omega
  exact (isWhole_of_mem_toFields hf).fits hname hdata

/-- A mission is read from a table that holds its fields. -/
theorem read_of_holds {m : Mission} (h : m.Fits) {t : FieldTable}
    (ht : ∀ f ∈ m.toFields, t.Holds f) : Mission.read t = .ok m := by
  rcases h with ⟨hid, htask, hduration, hinterval, hstart, hpriority⟩
  simp only [toFields, List.forall_mem_cons] at ht
  rcases ht with ⟨h1, h2, h3, h4, h5, h6, h7, h8, h9, h10, -⟩
  simp only [Mission.read, FieldTable.int32_of_holds h1 hid, FieldTable.single_of_holds h2,
    FieldTable.single_of_holds h3, FieldTable.single_of_holds h4, FieldTable.single_of_holds h5,
    FieldTable.text_of_holds h6 htask, FieldTable.int64_of_holds h7 hduration,
    FieldTable.int64_of_holds h8 hinterval, FieldTable.int64_of_holds h9 hstart,
    FieldTable.int32_of_holds h10 hpriority, bind, Except.bind]
  rfl

end Mission

end RoverDispatch
