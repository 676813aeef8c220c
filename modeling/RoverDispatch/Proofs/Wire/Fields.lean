import RoverDispatch.Wire.Field

/-!
# Fields on the Wire

Reading fields gives back what writing them made, as long as the words of the
format can hold their lengths and places.

The lengths in front of the name and the data are words of fixed width, so a
field is only read back if they can hold them. `Field.Fits` says so, and it is
the whole of the condition. Nothing is asked of what the bytes mean, and a
field is followed by whatever comes next, so the law for one field is stated
with arbitrary bytes behind it; the law for a run of fields is then an
induction over the run.

## Main definitions

* `Field.Fits`: The words of the format can hold a field.

## Theorems

* `Field.length_encode`: A field takes as many bytes as it says.
* `Field.takeBytes_append`: Taking exactly the bytes in front.
* `Field.decode_encode`: A field is read back from the front of its bytes.
* `length_encodeFields`: A run of fields takes as many bytes as it says.
* `decodeFields_encode_append`: A run of fields is read field by field.
* `decodeFields_encodeFields`: A run of fields is read back.
-/

namespace RoverDispatch

/-- The words of the format can hold a field. -/
def Field.Fits (f : Field) : Prop :=
  f.name.utf8ByteSize < Word.size 2 ∧ f.data.length < Word.size 4 ∧ f.part < f.total ∧
    f.total < Word.size 2

instance (f : Field) : Decidable f.Fits := inferInstanceAs (Decidable (_ ∧ _))

@[simp]
theorem length_textBytes (s : String) : (textBytes s).length = s.utf8ByteSize := by
  simp only [textBytes, Array.length_toList]
  exact String.size_toByteArray

/-- The bytes of a text stand for the text. -/
@[simp]
theorem textOfBytes?_textBytes (s : String) : textOfBytes? (textBytes s) = some s := by
  have hbytes : (⟨(textBytes s).toArray⟩ : ByteArray) = s.toByteArray := by
    simp only [textBytes, Array.toArray_toList]
  rw [textOfBytes?, hbytes, String.fromUTF8?, dif_pos s.isValidUTF8]
  rfl

/-- A text that was read has the bytes that it was read from. -/
theorem textBytes_of_textOfBytes? {bs : Bytes} {s : String} (h : textOfBytes? bs = some s) :
    textBytes s = bs := by
  rw [textOfBytes?, String.fromUTF8?] at h
  split at h
  · cases h
    rfl
  · cases h

namespace Field

/-- A field takes as many bytes as it says. -/
@[simp]
theorem length_encode (f : Field) : f.encode.length = f.encodedLength := by
  simp only [encode, List.length_append, Word.length_be, length_textBytes, encodedLength, overhead,
    fixedOverhead]
  omega

/-- Taking exactly the bytes in front leaves what follows them. -/
theorem takeBytes_append {n : Nat} {first : Bytes} (h : first.length = n) (rest : Bytes) :
    takeBytes n (first ++ rest) = .ok (first, rest) := by
  subst h
  simp only [takeBytes, List.take_left, List.drop_left, Nat.lt_irrefl, if_false]

/-- A field is read back from the front of its bytes, whatever follows. -/
theorem decode_encode {f : Field} (h : f.Fits) (rest : Bytes) :
    decode (f.encode ++ rest) = .ok (f, rest) := by
  rcases h with ⟨hname, hdata, hpart, htotal⟩
  have hplace : (Word.be 2 f.part ++ Word.be 2 f.total).length = 4 := by simp
  -- Each word is read where the one before it ended.
  simp only [decode, encode, List.append_assoc, bind, Except.bind]
  rw [takeBytes_append (Word.length_be 2 _)]
  simp only [Word.ofBe_be, Nat.mod_eq_of_lt hname]
  rw [takeBytes_append (length_textBytes f.name)]
  simp only [textOfBytes?_textBytes]
  rw [takeBytes_append (Word.length_be 4 _)]
  simp only [Word.ofBe_be, Nat.mod_eq_of_lt hdata]
  rw [takeBytes_append rfl]
  simp only [← List.append_assoc (Word.be 2 f.part)]
  rw [takeBytes_append hplace]
  simp only [List.take_left' (Word.length_be 2 f.part), List.drop_left' (Word.length_be 2 f.part),
    Word.ofBe_be, Nat.mod_eq_of_lt htotal, Nat.mod_eq_of_lt (Nat.lt_trans hpart htotal)]
  rw [if_neg (Nat.not_le.2 hpart)]

/-- A field takes at least one byte. -/
theorem encode_ne_nil (f : Field) : f.encode ≠ [] := by
  intro h
  have hlen := congrArg List.length h
  rw [length_encode, encodedLength, overhead, fixedOverhead, List.length_nil] at hlen
  omega

end Field

@[simp]
theorem fieldsLength_nil : fieldsLength [] = 0 := rfl

@[simp]
theorem fieldsLength_cons (f : Field) (fields : List Field) :
    fieldsLength (f :: fields) = f.encodedLength + fieldsLength fields := rfl

@[simp]
theorem fieldsLength_append (fields more : List Field) :
    fieldsLength (fields ++ more) = fieldsLength fields + fieldsLength more := by
  induction fields with
  | nil => rw [List.nil_append, fieldsLength_nil, Nat.zero_add]
  | cons f fields ih => rw [List.cons_append, fieldsLength_cons, ih, fieldsLength_cons, Nat.add_assoc]

@[simp]
theorem encodeFields_cons (f : Field) (fields : List Field) :
    encodeFields (f :: fields) = f.encode ++ encodeFields fields :=
  List.flatMap_cons

@[simp]
theorem encodeFields_append (fields more : List Field) :
    encodeFields (fields ++ more) = encodeFields fields ++ encodeFields more :=
  List.flatMap_append

/-- A run of fields takes as many bytes as it says. -/
theorem length_encodeFields (fields : List Field) :
    (encodeFields fields).length = fieldsLength fields := by
  induction fields with
  | nil => rfl
  | cons f fields ih =>
      rw [encodeFields_cons, List.length_append, ih, Field.length_encode, fieldsLength_cons]

theorem decodeFields_of_ok {f : Field} {bs rest : Bytes} (hne : bs ≠ [])
    (h : Field.decode bs = .ok (f, rest)) : decodeFields bs = (decodeFields rest).map (f :: ·) := by
  rw [decodeFields, if_neg hne]
  split
  · rename_i he
    rw [h] at he
    cases he
  · rename_i g left hok
    rw [h] at hok
    cases hok
    cases decodeFields rest <;> rfl

/-- A run is read field by field. -/
theorem decodeFields_encode_append {f : Field} (h : f.Fits) (rest : Bytes) :
    decodeFields (f.encode ++ rest) = (decodeFields rest).map (f :: ·) :=
  decodeFields_of_ok (List.append_ne_nil_of_left_ne_nil f.encode_ne_nil rest)
    (Field.decode_encode h rest)

/-- A run of fields is read back from its bytes. -/
theorem decodeFields_encodeFields {fields : List Field} (h : ∀ f ∈ fields, f.Fits) :
    decodeFields (encodeFields fields) = .ok fields := by
  induction fields with
  | nil => rw [encodeFields, List.flatMap_nil, decodeFields, if_pos rfl]
  | cons f fields ih =>
      rcases List.forall_mem_cons.1 h with ⟨hf, hfields⟩
      rw [encodeFields_cons, decodeFields_encode_append hf, ih hfields, Except.map]

end RoverDispatch
