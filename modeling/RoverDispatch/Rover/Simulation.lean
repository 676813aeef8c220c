import RoverDispatch.Message.Basic
import RoverDispatch.Numeric.Decimal

/-!
# Rover Simulation

A rover on its mission, one tick at a time.

On every tick the rover moves one step towards the centre of the area, or onto
it when it is within a step, and pays for the move from its battery. Progress
is the share of the mission's duration that has passed. A fault stops the
mission; it is injected from outside, or scheduled for a share of the mission,
or it is the battery itself running low.

All arithmetic is single-precision, operation by operation.

## Main definitions

* `Simulation`: How far, how fast and at what cost a rover moves.
* `Rover`: Where it is and in what state.
* `Rover.step`: One tick.
* `Rover.failure?`: Why the mission cannot go on.
* `Rover.report`: The error report of a fault.
-/

namespace RoverDispatch

/-- How a rover is simulated. -/
structure Simulation where
  /-- The length of a tick in milliseconds. -/
  tick : Nat := 1000
  /-- The distance covered in a tick. -/
  speed : Single := ⟨0x3f800000⟩
  /-- The share of the battery that a tick on the move costs. -/
  movingDrain : Single := ⟨0x3d4ccccd⟩
  /-- The share of the battery that a tick at rest costs. -/
  idleDrain : Single := ⟨0x3c23d70a⟩
  /-- The level below which the battery is critical. -/
  criticalBattery : Single := ⟨0x41200000⟩
  /-- How long a rover needs to recover from a fault. -/
  recovery : Nat := 5000
  deriving DecidableEq, Inhabited

/-- A fault waiting for a share of the mission to be reached. -/
structure ScheduledFault where
  percent : Single
  fault : Fault
  deriving DecidableEq, Inhabited

/-- Where a rover is and in what state. -/
structure Rover where
  simulation : Simulation
  x : Single
  y : Single
  battery : Single
  progress : Single
  fault : Option Fault
  scheduled : Option ScheduledFault
  deriving DecidableEq, Inhabited

namespace Rover

/-- A rover at rest, its battery level held between empty and full. -/
def start (simulation : Simulation) (x y battery : Single)
    (scheduled : Option ScheduledFault) : Rover :=
  { simulation, x, y, battery := Single.within .zero .hundred battery, progress := .zero,
    fault := none, scheduled }

/-- A rover about to start a mission. -/
def begin (r : Rover) : Rover := { r with progress := .zero }

/-- The share of a duration that has passed, at most all of it. -/
def percentOf (elapsed duration : Nat) : Single :=
  Single.atMost .hundred (Single.ofNat elapsed / Single.ofNat (max duration 1) * .hundred)

/-- A step towards a point, or onto it when it is within a step. -/
def moveTo (r : Rover) (target : Single × Single) : Rover :=
  let dx := target.1 - r.x
  let dy := target.2 - r.y
  let distance := Single.hypot dx dy
  let speed := r.simulation.speed
  if speed.below distance then
    { r with
      x := r.x + dx / distance * speed
      y := r.y + dy / distance * speed
      battery := r.battery - r.simulation.movingDrain }
  else
    { r with
      x := target.1
      y := target.2
      battery := r.battery - r.simulation.idleDrain }

/-- The scheduled fault strikes once its share of the mission is reached. -/
def strike (r : Rover) : Rover :=
  match r.scheduled with
  | none => r
  | some s =>
    if r.progress.reaches s.percent then { r with fault := some s.fault, scheduled := none }
    else r

/-- One tick of a mission, after so much of its duration. -/
def step (r : Rover) (m : Mission) (elapsed duration : Nat) : Rover :=
  let r := { r with progress := percentOf elapsed duration }
  let r := r.moveTo m.center
  let r := { r with battery := Single.atLeast .zero r.battery }
  r.strike

/-- Why the mission cannot go on: the fault there is, or else the battery. -/
def failure? (r : Rover) : Option Fault :=
  match r.fault with
  | some fault => some fault
  | none =>
    if r.battery.below r.simulation.criticalBattery then some .batteryCritical else none

/-- The rover with a fault. -/
def inject (r : Rover) (fault : Fault) : Rover := { r with fault := some fault }

/-- The rover without a fault. -/
def clearFault (r : Rover) : Rover := { r with fault := none }

/-- The error report of a fault; a critical battery tells its level. -/
def report (r : Rover) (mission : Int) (fault : Fault) (timestamp : Int) : ErrorReport :=
  let detail := match fault with
    | .batteryCritical => some ("battery at " ++ r.battery.tenths ++ "%")
    | _ => none
  { mission, fault, description := fault.describe detail, progress := r.progress,
    battery := r.battery, x := r.x, y := r.y, timestamp }

end Rover

end RoverDispatch
