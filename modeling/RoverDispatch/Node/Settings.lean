import RoverDispatch.Network.Address
import RoverDispatch.Rover.Simulation
import RoverDispatch.Session.Timing
import RoverDispatch.Text.Blank
import RoverDispatch.Text.Quoted

/-!
# Settings

Where nodes listen and how they are set up.

A rover listens on a port that follows from its number, as long as there is
such a port. That is also where a coordinator looks for a rover that it was
given by its number alone; otherwise an endpoint names the address behind an
equals sign.

## Main definitions

* `roverPort`: The port of a rover.
* `Endpoint.parse`: A rover's number and address as they are typed.
* `CoordinatorSettings`, `RoverSettings`: Settings with their defaults.
-/

namespace RoverDispatch

/-- Why a node cannot be set up. -/
inductive SettingsError where
  /-- The rover's number is too large or too small to make a port. -/
  | noDefaultPort (rover : Int)
  deriving DecidableEq, Inhabited

/-- The wording of an error. -/
def SettingsError.message : SettingsError → String
  | noDefaultPort rover =>
    "configuration error: rover id " ++ toString rover ++ " has no default port"

/-- The port on which the coordinator listens. -/
def coordinatorPort : UInt16 := 9001

/-- The port of the rover with the number zero. -/
def firstRoverPort : Int := 9010

/-- The port of a rover. -/
def roverPort (rover : Int) : Except SettingsError UInt16 :=
  if 0 ≤ rover ∧ firstRoverPort + rover ≤ 65535 then
    .ok (UInt16.ofNat (firstRoverPort + rover).toNat)
  else .error (.noDefaultPort rover)

/-- A port on this host. -/
def localhost (port : UInt16) : SocketAddress := ⟨.v4 127 0 0 1, port⟩

/-- A port on every address of this host. -/
def anyAddress (port : UInt16) : SocketAddress := ⟨.v4 0 0 0 0, port⟩

/-- A rover's number and address. -/
structure Endpoint where
  id : Int
  address : SocketAddress
  deriving DecidableEq

/-- Why a text is no endpoint. -/
inductive EndpointError where
  | badId (text : String)
  | badAddress (text : String)
  | settings (e : SettingsError)
  deriving DecidableEq, Inhabited

/-- The wording of an error; the text is quoted. -/
def EndpointError.message : EndpointError → String
  | badId text => "invalid rover id in " ++ Text.quoted text
  | badAddress text => "invalid rover address in " ++ Text.quoted text
  | settings e => e.message

/-- The number that decimal digits stand for. -/
def decimal? (digits : List Char) : Option Nat :=
  if digits ≠ [] ∧ digits.all Char.isDigit then
    some (digits.foldl (fun n c => n * 10 + (c.toNat - '0'.toNat)) 0)
  else none

/-- The signed thirty-two-bit number that a text stands for. -/
def int32? (text : List Char) : Option Int :=
  let value : Option Int := match text with
    | '-' :: digits => (decimal? digits).map (fun n : Nat => -n)
    | '+' :: digits => (decimal? digits).map (fun n : Nat => n)
    | digits => (decimal? digits).map (fun n : Nat => n)
  value.filter (fun n => -0x80000000 ≤ n ∧ n < 0x80000000)

namespace Endpoint

/-- A rover on this host, at the port that follows from its number. -/
def default (id : Int) : Except EndpointError Endpoint :=
  match roverPort id with
  | .ok port => .ok ⟨id, localhost port⟩
  | .error e => .error (.settings e)

/-- A rover's number, and its address behind an equals sign unless it is the
    default. -/
def parse (text : String) : Except EndpointError Endpoint :=
  let cs := text.toList
  match int32? (Text.trim (cs.takeWhile (· ≠ '='))) with
  | none => .error (.badId text)
  | some id =>
    match cs.dropWhile (· ≠ '=') with
    | [] => default id
    | _ :: address =>
      match SocketAddress.ofText? (Text.trim address) with
      | none => .error (.badAddress text)
      | some address => .ok ⟨id, address⟩

end Endpoint

/-- How a coordinator is set up. Times are in milliseconds. -/
structure CoordinatorSettings where
  bind : SocketAddress := anyAddress coordinatorPort
  timing : Timing := {}
  rovers : List Endpoint := []
  /-- The pause between scans for missions to assign. -/
  scanInterval : Nat := 2000
  /-- The pause between sweeps. -/
  sweepInterval : Nat := 10000
  /-- How long a session may be silent. -/
  inactivity : Nat := 120000
  /-- How long a rover stays out of order after a fault. -/
  cooldown : Nat := 5000

/-- How a rover is set up. -/
structure RoverSettings where
  id : Int
  bind : SocketAddress
  /-- Where messages go until the coordinator's address is known. -/
  coordinator : SocketAddress := localhost coordinatorPort
  timing : Timing := {}
  simulation : Simulation := {}
  x : Single := .zero
  y : Single := .zero
  battery : Single := .hundred
  /-- At which share of a mission the hardware fails, if it does. -/
  failAt : Option Single := none

/-- The settings of a rover. -/
def RoverSettings.forRover (id : Int) : Except SettingsError RoverSettings :=
  (roverPort id).map (fun port => { id, bind := anyAddress port })

end RoverDispatch
