import RoverDispatch.Transfer.Error

/-!
# Reassembly

Collecting the parts of fields until a payload is whole again.

Parts arrive in any order, more than once, or not at all. They are kept by
field name and part number, a repeated part replacing the earlier one. A field
is whole when every part of the total it announced is there. Parts of one name
that announce different totals can never be whole together, and the
disagreement is remembered even if a later part repeats the first total.

## Main definitions

* `PartSet`: The parts received of one field.
* `Assembly`: The parts received, by field name.
* `Assembly.add`: One more field or part.
* `Assembly.isFieldComplete`: Whether a field is whole.
* `Assembly.rebuildField`: The data of a whole field.
* `Assembly.rebuild`: The payload of a schema whose fields are all whole.
-/

namespace RoverDispatch

/-- The parts received of one field: the total that the first one announced,
    whether all of them agree on it, and the data by part number. -/
structure PartSet where
  total : Nat
  consistent : Bool
  parts : Table Nat Bytes
  deriving DecidableEq, Inhabited

namespace PartSet

/-- The set with a first part. -/
def start (f : Field) : PartSet := ⟨f.total, true, (∅ : Table Nat Bytes).insert f.part f.data⟩

/-- The set with one more part. -/
def add (s : PartSet) (f : Field) : PartSet :=
  ⟨s.total, s.consistent && s.total == f.total, s.parts.insert f.part f.data⟩

/-- Every announced part is there. -/
def isComplete (s : PartSet) : Bool := s.consistent && s.parts.size == s.total

end PartSet

/-- The parts received, by field name. -/
abbrev Assembly := Table String PartSet

namespace Assembly

/-- The assembly with one more field or part. -/
def add (a : Assembly) (f : Field) : Assembly :=
  -- A part that comes again replaces the one before.
  a.insert f.name (match a.find? f.name with
    | none => .start f
    | some s => s.add f)

/-- The assembly with the fields of one more fragment. -/
def addAll (a : Assembly) (fields : List Field) : Assembly := fields.foldl add a

/-- Whether a field is whole. -/
def isFieldComplete (a : Assembly) (name : String) : Bool :=
  (a.find? name).any PartSet.isComplete

/-- Whether every one of the fields is whole. -/
def isComplete (a : Assembly) (names : List String) : Bool := names.all a.isFieldComplete

/-- The fields that are not whole yet. -/
def missing (a : Assembly) (names : List String) : List String :=
  names.filter (fun name => !a.isFieldComplete name)

/-- The data of a whole field, its parts in order. -/
def rebuildField (a : Assembly) (name : String) : Except TransferError Bytes :=
  match a.find? name with
  | none => .error (.incompleteField name 0 1)
  | some s =>
    if s.isComplete then .ok s.parts.values.flatten
    else .error (.incompleteField name s.parts.size s.total)

/-- The field table of whole fields; the first that is not whole is named. -/
def rebuildTable (a : Assembly) (names : List String) : Except TransferError FieldTable :=
  names.foldlM (fun t name => do return t.insert name (← a.rebuildField name)) ∅

/-- The payload of a schema whose fields are all whole. -/
def rebuild (a : Assembly) (s : Schema) : Except TransferError Payload := do
  let table ← a.rebuildTable s.fieldNames
  liftWire (s.read table)

/-- The mission whose fields are all whole. -/
def rebuildMission (a : Assembly) : Except TransferError Mission := do
  let table ← a.rebuildTable Schema.mission.fieldNames
  liftWire (Mission.read table)

end Assembly

end RoverDispatch
