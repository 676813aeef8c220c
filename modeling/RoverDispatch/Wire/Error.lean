import RoverDispatch.Message.Basic

/-!
# Wire Errors

Why bytes are no message.

Each way in which reading can fail is a constructor that holds what was found,
and the wording is in one place. A field can be wrong in a fixed number of
ways; those are the defects.

## Main definitions

* `Defect`: What is wrong with a field.
* `WireError`: Why bytes are no message.
* `WireError.message`: The wording of an error.
-/

namespace RoverDispatch

/-- The version of the wire format. -/
def wireVersion : Nat := 1

/-- What is wrong with a field. -/
inductive Defect where
  | nameNotText
  | partOutOfRange
  | missing
  | width
  | notBoolean
  | prefixMissing
  | prefixNegative
  | textLength
  | notText
  | listLength
  | countMismatch
  deriving DecidableEq, Inhabited

/-- The wording of a defect. -/
def Defect.message : Defect → String
  | nameNotText => "field name is not valid UTF-8"
  | partOutOfRange => "part index out of range"
  | missing => "field is missing"
  | width => "unexpected value width"
  | notBoolean => "boolean must be 0 or 1"
  | prefixMissing => "missing length prefix"
  | prefixNegative => "negative length prefix"
  | textLength => "string length prefix mismatch"
  | notText => "string is not valid UTF-8"
  | listLength => "list count prefix mismatch"
  | countMismatch => "count does not match list length"

/-- Why bytes are no message. -/
inductive WireError where
  /-- Fewer bytes remain than the format announces. -/
  | tooShort (needed remaining : Nat)
  | unsupportedVersion (version : Nat)
  | unknownKind (code : Nat)
  | unknownPayloadTag (code : Nat)
  /-- The kind does not admit the payload. -/
  | payloadMismatch (kind : Kind) (payload : PayloadTag)
  | malformedField (name : String) (defect : Defect)
  /-- A field in parts stands where a whole one is needed. -/
  | incompleteField (name : String) (received expected : Nat)
  deriving DecidableEq, Inhabited

/-- The wording of an incomplete field, shared with reassembly. -/
def incompleteFieldMessage (name : String) (received expected : Nat) : String :=
  "Incomplete field '" ++ name ++ "': " ++ toString received ++ "/" ++ toString expected ++
    " parts"

/-- The wording of an error. -/
def WireError.message : WireError → String
  | tooShort needed remaining =>
    "Buffer too short: needed " ++ toString needed ++ " bytes, " ++ toString remaining ++
      " remaining"
  | unsupportedVersion version =>
    "Unsupported protocol version: " ++ toString version ++ " (expected " ++
      toString wireVersion ++ ")"
  | unknownKind code => "Unknown message kind: " ++ toString code
  | unknownPayloadTag code => "Unknown payload tag: " ++ toString code
  | payloadMismatch kind payload =>
    "Payload '" ++ payload.name ++ "' is not valid for message kind " ++ kind.name
  | malformedField name defect => "Malformed field '" ++ name ++ "': " ++ defect.message
  | incompleteField name received expected => incompleteFieldMessage name received expected

end RoverDispatch
