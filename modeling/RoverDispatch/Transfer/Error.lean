import RoverDispatch.Wire.Datagram

/-!
# Transfer Errors

Why a payload cannot be cut up, put together or sent.

## Main definitions

* `TransferError`: The causes.
* `TransferError.message`: Their wording.
-/

namespace RoverDispatch

/-- Why a payload cannot be cut up, put together or sent. -/
inductive TransferError where
  /-- The limit leaves no room for data beside the name and lengths. -/
  | fragmentTooSmall (field : String) (limit overhead : Nat)
  /-- The parts cannot be numbered. -/
  | tooManyParts (field : String) (parts : Nat)
  /-- Parts are missing, or they disagree about their total. -/
  | incompleteField (name : String) (received expected : Nat)
  | datagramTooLarge (length limit : Nat)
  | wire (e : WireError)
  deriving DecidableEq, Inhabited

/-- The wording of an error. -/
def TransferError.message : TransferError → String
  | fragmentTooSmall field limit overhead =>
    "Fragment size " ++ toString limit ++ " cannot hold field '" ++ field ++ "' (" ++
      toString overhead ++ " bytes of metadata)"
  | tooManyParts field parts =>
    "Field '" ++ field ++ "' would need " ++ toString parts ++ " parts"
  | incompleteField name received expected => incompleteFieldMessage name received expected
  | datagramTooLarge length limit =>
    "Datagram of " ++ toString length ++ " bytes exceeds the " ++ toString limit ++ " byte limit"
  | wire e => e.message

/-- A failure to read is a failure to transfer. -/
def liftWire {α : Type} : Except WireError α → Except TransferError α
  | .ok a => .ok a
  | .error e => .error (.wire e)

end RoverDispatch
