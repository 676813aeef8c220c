import RoverDispatch.Session.Reports
import RoverDispatch.Rover.Simulation

/-!
# Executions

A rover carrying out a mission.

Time goes by in ticks of a fixed length, counted from the start. However late
a rover is asked, every tick that has passed is carried out in order, so that
what happens does not depend on when it was asked. After each tick the rover
has failed, or has completed the mission, or may have progress to report; the
first two end the execution.

The end of a tick is a plain sum. It agrees with one of 64 bits as long as the
tick under way ends at the largest time or before; a tick that would end later
never passes here.

## Main definitions

* `Execution`: A mission under way.
* `Execution.due`: How many ticks have passed.
* `Drive`: A mission under way with its rover and its reports.
* `Drive.tick`, `Drive.ticks`: One tick, and a number of them.
-/

namespace RoverDispatch

/-- How long a mission without a duration takes, in seconds. -/
def defaultDuration : Int := 60

/-- How often a mission without an update interval is reported on, in
    seconds. -/
def defaultUpdateInterval : Int := 2

/-- A number if it is positive, and otherwise the other. -/
def positiveOr (other n : Int) : Int := if 0 < n then n else other

/-- A mission under way. All times are in milliseconds. -/
structure Execution where
  mission : Mission
  startedAt : Nat
  duration : Nat
  interval : Nat
  lastTick : Nat
  lastReport : Nat
  deriving DecidableEq, Inhabited

/-- A mission under way, the rover that carries it out, its reports, and
    whether the last of them ends the mission. -/
structure Drive where
  execution : Execution
  rover : Rover
  reports : ReportQueue
  ended : Bool
  deriving DecidableEq, Inhabited

/-- The length of a tick; time always goes by. -/
def Rover.tickLength (r : Rover) : Nat := max 1 r.simulation.tick

namespace Execution

/-- A mission that starts now. -/
def start (mission : Mission) (now : Nat) : Execution :=
  { mission, startedAt := now
    duration := millis (positiveOr defaultDuration mission.duration)
    interval := millis (positiveOr defaultUpdateInterval mission.updateInterval)
    lastTick := now, lastReport := now }

/-- How many ticks have passed and have not been carried out. -/
def due (e : Execution) (rover : Rover) (now : Nat) : Nat :=
  (now - e.lastTick) / rover.tickLength

end Execution

namespace Drive

/-- The mission ends with a report. -/
def finish (d : Drive) (report : Report) : Drive :=
  { d with reports := d.reports.enqueue report, ended := true }

/-- Progress is reported when an update interval has passed. -/
def reportProgress (d : Drive) (elapsed : Nat) : Drive :=
  let e := d.execution
  if e.interval ≤ e.lastTick - e.lastReport then
    { d with
      execution := { e with lastReport := e.lastTick }
      reports := d.reports.enqueue
        (.progress ⟨d.reports.mission, (elapsed / 1000 : Nat), d.rover.progress⟩) }
  else d

/-- One tick; an error report tells the time. -/
def tick (d : Drive) (timestamp : Int) : Drive :=
  let e := { d.execution with lastTick := d.execution.lastTick + d.rover.tickLength }
  let elapsed := e.lastTick - e.startedAt
  let rover := d.rover.step e.mission elapsed e.duration
  let d := { d with execution := e, rover }
  -- A fault comes before progress, and also before the end of the mission.
  match rover.failure? with
  | some fault => d.finish (.error (rover.report d.reports.mission fault timestamp))
  | none =>
    if rover.progress.reaches .hundred then d.finish .completed else d.reportProgress elapsed

/-- A number of ticks, or fewer if the mission ends. -/
def ticks (d : Drive) (timestamp : Int) : Nat → Drive
  | 0 => d
  | n + 1 => if d.ended then d else (d.tick timestamp).ticks timestamp n

end Drive

end RoverDispatch
