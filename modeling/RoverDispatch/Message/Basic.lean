import RoverDispatch.Message.Payload

/-!
# Messages

The unit of exchange between the coordinator and a rover.

A message names its sender, its receiver and the mission it is about, carries
a sequence number, and says what it is by its kind. Reports are the messages
that a rover repeats until they are acknowledged; two of them end the mission.
Each kind admits particular payloads only.

## Main definitions

* `Kind`: What a message is.
* `Kind.isReport`, `Kind.isTerminal`: The messages a rover must see confirmed.
* `Kind.accepts`: The payloads that a kind admits.
* `Message`: One message.
* `coordinatorId`: The node that assigns missions.
-/

namespace RoverDispatch

/-- What a message is. Telemetry has a channel of its own and no payload is
    admitted for it here. -/
inductive Kind where
  | hello
  | response
  | mission
  | ack
  | progress
  | completed
  | telemetry
  | error
  deriving DecidableEq, Inhabited

namespace Kind

/-- The name of a kind in diagnostics. -/
def name : Kind → String
  | hello => "Hello"
  | response => "Response"
  | mission => "Mission"
  | ack => "Ack"
  | progress => "Progress"
  | completed => "Completed"
  | telemetry => "Telemetry"
  | error => "Error"

/-- The byte of a kind. -/
def code : Kind → Nat
  | hello => 1
  | response => 2
  | mission => 3
  | ack => 4
  | progress => 5
  | completed => 6
  | telemetry => 7
  | error => 8

/-- The kind that a byte stands for. -/
def ofCode? : Nat → Option Kind
  | 1 => some hello
  | 2 => some response
  | 3 => some mission
  | 4 => some ack
  | 5 => some progress
  | 6 => some completed
  | 7 => some telemetry
  | 8 => some error
  | _ => none

/-- A message that a rover repeats until it is acknowledged. -/
def isReport : Kind → Bool
  | progress | completed | error => true
  | _ => false

/-- A report that ends the mission. -/
def isTerminal : Kind → Bool
  | completed | error => true
  | _ => false

/-- The payloads that a kind admits. -/
def accepts : Kind → PayloadTag → Bool
  | hello, .empty | response, .empty | completed, .empty => true
  | mission, .mission | mission, .fragment => true
  | ack, .ack | ack, .empty => true
  | progress, .progress => true
  | error, .error => true
  | _, _ => false

end Kind

/-- The node that assigns missions. -/
def coordinatorId : Int := 0

/-- One message. `total` is the number of messages in a mission transfer and
    one for everything else; `sentAt` is set when the message is sent. -/
structure Message where
  kind : Kind
  sender : Int
  receiver : Int
  mission : Int
  seq : Int := 0
  total : Int := 1
  success : Bool := false
  sentAt : Int := 0
  payload : Payload := .empty
  deriving DecidableEq, Inhabited

end RoverDispatch
