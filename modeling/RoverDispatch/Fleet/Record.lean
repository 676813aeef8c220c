import RoverDispatch.Message.Payload
import RoverDispatch.Network.Address

/-!
# Records

What a fleet knows of its rovers and missions.

A rover that is held by a mission has the number of the mission in its record,
and the mission that of the rover. The status of either is a field of its own,
as are the time since which a rover has been out of order and the description
of a failure. Nothing here says that the fields of a record agree; that is for
the operations of a fleet to keep up.

Assignments and reports of progress are counted without bounds. The counts agree
with counters of 32 bits up to 2 ^ 32 - 1 assignments of a mission, and up to
as many reports in one of them.

## Main definitions

* `RoverStatus`, `RoverState`, `RoverRecord`: A rover.
* `MissionFailure`, `MissionStatus`, `MissionState`, `MissionRecord`: A mission.
-/

namespace RoverDispatch

/-- Whether a rover can be assigned a mission. -/
inductive RoverStatus where
  | available
  /-- A mission is on its way to the rover. -/
  | receiving
  | onMission
  /-- The rover is out of order. -/
  | fault
  deriving DecidableEq, Inhabited

namespace RoverStatus

/-- The name of a status. -/
def name : RoverStatus → String
  | available => "available"
  | receiving => "receiving_mission"
  | onMission => "on_mission"
  | fault => "fault"

/-- A mission holds the rover. -/
def isEngaged : RoverStatus → Bool
  | receiving => true
  | onMission => true
  | _ => false

end RoverStatus

/-- What a rover is doing: its status, the mission that holds it, and the time
    in milliseconds since which it has been out of order. -/
structure RoverState where
  status : RoverStatus
  mission? : Option Int
  faultSince? : Option Nat
  deriving DecidableEq, Inhabited

namespace RoverState

/-- The name of a state is that of its status. -/
def name (s : RoverState) : String := s.status.name

/-- A mission holds the rover. -/
def isEngaged (s : RoverState) : Bool := s.status.isEngaged

end RoverState

/-- What is known of a rover; battery and position are as last reported. -/
structure RoverRecord where
  endpoint : Option SocketAddress
  state : RoverState
  progress : Single
  battery : Single
  x : Single
  y : Single
  deriving DecidableEq

/-- A rover of which nothing has been heard. -/
def RoverRecord.start (endpoint : Option SocketAddress) : RoverRecord :=
  { endpoint, state := ⟨.available, none, none⟩, progress := .zero, battery := .hundred
    x := .zero, y := .zero }

/-- Why a mission failed: the number of the rover's error, or none if the
    session failed, and a description. -/
structure MissionFailure where
  code : Option Int
  description : String
  deriving DecidableEq, Inhabited

/-- Where a mission stands. -/
inductive MissionStatus where
  | pending
  /-- The mission is on its way to a rover. -/
  | assigned
  | inProgress
  | completed
  | failed
  deriving DecidableEq, Inhabited

namespace MissionStatus

/-- The name of a status. -/
def name : MissionStatus → String
  | pending => "pending"
  | assigned => "assigned"
  | inProgress => "in_progress"
  | completed => "completed"
  | failed => "failed"

/-- A rover holds the mission. -/
def isActive : MissionStatus → Bool
  | assigned => true
  | inProgress => true
  | _ => false

/-- The mission has ended. -/
def isFinished : MissionStatus → Bool
  | completed => true
  | failed => true
  | _ => false

end MissionStatus

/-- What has become of a mission: its status, the rover that holds or held it,
    and why it failed. -/
structure MissionState where
  status : MissionStatus
  rover? : Option Int
  failure? : Option MissionFailure
  deriving DecidableEq, Inhabited

namespace MissionState

/-- The name of a state is that of its status. -/
def name (s : MissionState) : String := s.status.name

/-- A rover holds the mission. -/
def isActive (s : MissionState) : Bool := s.status.isActive

/-- The mission has ended. -/
def isFinished (s : MissionState) : Bool := s.status.isFinished

end MissionState

/-- What is known of a mission: how far it has come, how often it was
    assigned, and how often progress was reported since. -/
structure MissionRecord where
  mission : Mission
  state : MissionState
  progress : Single
  elapsed : Int
  attempts : Nat
  reports : Nat
  deriving DecidableEq, Inhabited

/-- A mission that has not been assigned. -/
def MissionRecord.pending (mission : Mission) : MissionRecord :=
  { mission, state := ⟨.pending, none, none⟩, progress := .zero, elapsed := 0, attempts := 0
    reports := 0 }

end RoverDispatch
