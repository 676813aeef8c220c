import RoverDispatch.Table
import RoverDispatch.Wire.Value

/-!
# Field Tables

Whole fields by name, the form in which a payload is read back.

Where a field stands in a payload says nothing; its name does. A table is
filled from a run of fields, a later field replacing an earlier one of the
same name, and refuses a field that is only a part. Values are then read by
name, and whatever is wrong with one is reported under that name.

## Main definitions

* `FieldTable`: Data of whole fields by name.
* `FieldTable.ofFields`: The table of a run of fields.
* `FieldTable.raw`: The data under a name.
* `FieldTable.read`: The value under a name.
-/

namespace RoverDispatch

/-- Data of whole fields by name. -/
abbrev FieldTable := Table String Bytes

namespace FieldTable

/-- The table with one more field. -/
def add (t : FieldTable) (f : Field) : Except WireError FieldTable :=
  if f.isSplit then .error (.incompleteField f.name 1 f.total)
  else .ok (t.insert f.name f.data)

/-- The table of a run of fields; the first part among them is refused. -/
def ofFields (fields : List Field) : Except WireError FieldTable :=
  fields.foldlM add ∅

/-- The data under a name. -/
def raw (t : FieldTable) (name : String) : Except WireError Bytes :=
  match t.find? name with
  | some data => .ok data
  | none => .error (.malformedField name .missing)

/-- The value under a name, by a reader of its data. -/
def read {α : Type} (t : FieldTable) (name : String) (reader : Bytes → Except Defect α) :
    Except WireError α := do
  let data ← t.raw name
  match reader data with
  | .ok value => return value
  | .error defect => .error (.malformedField name defect)

/-- The four-byte number under a name. -/
def int32 (t : FieldTable) (name : String) : Except WireError Int := t.read name (Value.readInt 4)

/-- The eight-byte number under a name. -/
def int64 (t : FieldTable) (name : String) : Except WireError Int := t.read name (Value.readInt 8)

/-- The single-precision number under a name. -/
def single (t : FieldTable) (name : String) : Except WireError Single :=
  t.read name Value.readSingle

/-- The truth value under a name. -/
def bool (t : FieldTable) (name : String) : Except WireError Bool := t.read name Value.readBool

/-- The text under a name. -/
def text (t : FieldTable) (name : String) : Except WireError String := t.read name Value.readText

/-- The list of four-byte numbers under a name. -/
def ints (t : FieldTable) (name : String) : Except WireError (List Int) :=
  t.read name Value.readInts

end FieldTable

end RoverDispatch
