import RoverDispatch.Message.Fault
import RoverDispatch.Numeric.Single

/-!
# Payloads

What messages carry: missions, progress, acknowledgements and error reports.

Identifiers, sequence numbers, durations and times are whole numbers without a
bound. Their words on the wire are the business of the codec, which says with
`Fits` when a value survives them. Coordinates and percentages are
single-precision words and never change on the way.

## Main definitions

* `Mission`: What a rover is asked to do.
* `Progress`: How far a rover has come.
* `Ack`: What has arrived and what is still missing.
* `ErrorReport`: Why a rover stopped, with its state at that moment.
* `Payload`: One of them, a piece of a mission, or nothing.
* `PayloadTag`: Which of them.
-/

namespace RoverDispatch

/-- What a rover is asked to do: a task in the area between two corners. -/
structure Mission where
  id : Int
  x1 : Single
  y1 : Single
  x2 : Single
  y2 : Single
  task : String
  duration : Int
  updateInterval : Int
  startTime : Int
  priority : Int
  deriving DecidableEq, Inhabited

/-- The centre of the mission's area. -/
def Mission.center (m : Mission) : Single × Single :=
  ((m.x1 + m.x2) / .two, (m.y1 + m.y2) / .two)

/-- How far a rover has come. -/
structure Progress where
  mission : Int
  elapsed : Int
  percent : Single
  deriving DecidableEq, Inhabited

/-- The sequence numbers still missing; none of them means that all has
    arrived. A final one answers the report that ends a mission. -/
structure Ack where
  missing : List Int
  final : Bool
  deriving DecidableEq, Inhabited

/-- Everything has arrived. -/
def Ack.complete : Ack := ⟨[], false⟩

/-- Why a rover stopped, with its state at that moment. -/
structure ErrorReport where
  mission : Int
  fault : Fault
  description : String
  progress : Single
  battery : Single
  x : Single
  y : Single
  timestamp : Int
  deriving DecidableEq, Inhabited

/-- What a message carries. A piece is a run of encoded fields of a mission
    that was too large for one message. -/
inductive Payload where
  | empty
  | mission (m : Mission)
  | progress (p : Progress)
  | ack (a : Ack)
  | error (e : ErrorReport)
  | fragment (bytes : List UInt8)
  deriving DecidableEq, Inhabited

/-- Which payload a message carries. -/
inductive PayloadTag where
  | empty
  | mission
  | progress
  | ack
  | error
  | fragment
  deriving DecidableEq, Inhabited

/-- The name of a payload in diagnostics. -/
def PayloadTag.name : PayloadTag → String
  | empty => "empty"
  | mission => "mission"
  | progress => "progress"
  | ack => "ack"
  | error => "error"
  | fragment => "fragment"

/-- The byte that announces a payload. -/
def PayloadTag.code : PayloadTag → Nat
  | empty => 0
  | mission => 1
  | progress => 2
  | ack => 3
  | error => 4
  | fragment => 5

/-- The payload that a byte announces. -/
def PayloadTag.ofCode? : Nat → Option PayloadTag
  | 0 => some empty
  | 1 => some mission
  | 2 => some progress
  | 3 => some ack
  | 4 => some error
  | 5 => some fragment
  | _ => none

/-- Which payload it is. -/
def Payload.tag : Payload → PayloadTag
  | empty => .empty
  | mission _ => .mission
  | progress _ => .progress
  | ack _ => .ack
  | error _ => .error
  | fragment _ => .fragment

end RoverDispatch
