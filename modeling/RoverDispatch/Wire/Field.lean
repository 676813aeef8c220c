import RoverDispatch.Wire.Error
import RoverDispatch.Wire.Word

/-!
# Fields

Named blocks of bytes, the unit in which payloads are written and split.

A field is its name, its data and its place among the parts it was cut into; a
field that was not cut is part zero of one. On the wire the name and the data
each follow their length, and the two part numbers close the field:

    name length (2)  name  data length (4)  data  part (2)  total (2)

Reading takes a field off the front of the bytes and returns the rest, so a
run of fields is read until nothing remains. Every field is at least ten bytes
long, which is why that ends.

## Main definitions

* `Field`: A named block of bytes, or one part of it.
* `Field.encodedLength`: The bytes that a field takes.
* `Field.encode`, `Field.decode`: A field as bytes, and back.
* `encodeFields`, `decodeFields`: A run of fields as bytes, and back.
-/

namespace RoverDispatch

/-- A named block of bytes, or one part of it. -/
structure Field where
  name : String
  data : Bytes
  part : Nat := 0
  total : Nat := 1
  deriving DecidableEq, Inhabited

/-- The bytes of a text in UTF-8. -/
def textBytes (s : String) : Bytes := s.toByteArray.data.toList

/-- The text that bytes in UTF-8 stand for. -/
def textOfBytes? (bs : Bytes) : Option String := String.fromUTF8? ⟨bs.toArray⟩

namespace Field

/-- The bytes that lengths and part numbers take. -/
def fixedOverhead : Nat := 10

/-- One part among several. -/
def isSplit (f : Field) : Bool := 1 < f.total

/-- The bytes that a field takes besides its data. -/
def overhead (f : Field) : Nat := fixedOverhead + f.name.utf8ByteSize

/-- The bytes that a field takes. -/
def encodedLength (f : Field) : Nat := f.overhead + f.data.length

/-- A field as bytes. Lengths and part numbers are written as words, whatever
    they are; the name and the data follow in full. -/
def encode (f : Field) : Bytes :=
  Word.be 2 f.name.utf8ByteSize ++ textBytes f.name ++
    (Word.be 4 f.data.length ++ f.data) ++
    (Word.be 2 f.part ++ Word.be 2 f.total)

/-- The first `n` bytes and what follows them. -/
def takeBytes (n : Nat) (bs : Bytes) : Except WireError (Bytes × Bytes) :=
  let first := bs.take n
  if first.length < n then .error (.tooShort n bs.length)
  else .ok (first, bs.drop n)

/-- The field that bytes start with, and the bytes after it. -/
def decode (bs : Bytes) : Except WireError (Field × Bytes) := do
  let (nameLength, bs) ← takeBytes 2 bs
  let (name, bs) ← takeBytes (Word.ofBe nameLength) bs
  let some name := textOfBytes? name
    | .error (.malformedField "<name>" .nameNotText)
  let (dataLength, bs) ← takeBytes 4 bs
  let (data, bs) ← takeBytes (Word.ofBe dataLength) bs
  let (place, bs) ← takeBytes 4 bs
  let part := Word.ofBe (place.take 2)
  let total := Word.ofBe (place.drop 2)
  if total ≤ part then .error (.malformedField name .partOutOfRange)
  else .ok (⟨name, data, part, total⟩, bs)

theorem length_of_takeBytes {n : Nat} {bs first rest : Bytes}
    (h : takeBytes n bs = .ok (first, rest)) : rest.length + n = bs.length := by
  simp only [takeBytes, List.length_take] at h
  split at h
  · cases h
  · simp only [Except.ok.injEq, Prod.mk.injEq] at h
    rcases h with ⟨-, rfl⟩
    rw [List.length_drop]
    omega

theorem length_of_decode {bs rest : Bytes} {f : Field} (h : decode bs = .ok (f, rest)) :
    rest.length + fixedOverhead ≤ bs.length := by
  simp only [decode, bind, Except.bind] at h
  split at h
  · cases h
  rename_i h1
  split at h
  · cases h
  rename_i h2
  split at h
  case h_2 => cases h
  split at h
  · cases h
  rename_i h3
  split at h
  · cases h
  rename_i h4
  split at h
  · cases h
  rename_i h5
  split at h
  · cases h
  -- A field takes its four words at least, whatever its name and its data take.
  simp only [Except.ok.injEq, Prod.mk.injEq] at h
  rcases h with ⟨-, rfl⟩
  have e1 := length_of_takeBytes h1
  have e2 := length_of_takeBytes h2
  have e3 := length_of_takeBytes h3
  have e4 := length_of_takeBytes h4
  have e5 := length_of_takeBytes h5
  simp only [fixedOverhead]
  omega

end Field

/-- The bytes that a run of fields takes. -/
def fieldsLength (fields : List Field) : Nat := fields.foldr (fun f n => f.encodedLength + n) 0

/-- A run of fields as bytes. -/
def encodeFields (fields : List Field) : Bytes := fields.flatMap Field.encode

/-- The run of fields that bytes stand for. -/
def decodeFields (bs : Bytes) : Except WireError (List Field) :=
  if bs = [] then .ok []
  else
    match _h : Field.decode bs with
    | .error e => .error e
    | .ok (field, rest) => do
      let fields ← decodeFields rest
      return field :: fields
termination_by bs.length
decreasing_by
  have := Field.length_of_decode _h
  simp only [Field.fixedOverhead] at this
  omega

end RoverDispatch
