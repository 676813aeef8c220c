import RoverDispatch.Fleet.Basic
import RoverDispatch.Session.Supervisor

/-!
# Outcomes

What the events of a session do to the fleet.

A session speaks of its mission only. An event about a mission that is not
known changes nothing.

## Main definitions

* `Fleet.apply`: One event.
* `Fleet.applyAll`: The events of a step.
-/

namespace RoverDispatch

namespace Fleet

/-- What an event of the session for a mission does to the fleet. -/
def outcome (f : Fleet) (mission : Int) (now : Nat) : SessionEvent → Except FleetError Fleet
  | .accepted => f.confirm mission
  | .progress p => f.recordProgress mission p
  | .completed => f.complete mission
  | .failed (.missionError e) _ => f.fail mission e now
  | .failed reason afterProgress => f.withdraw mission afterProgress reason.message

/-- The fleet after an event of the session for a mission. -/
def apply (f : Fleet) (mission : Int) (now : Nat) (e : SessionEvent) : Fleet :=
  match f.outcome mission now e with
  | .ok f => f
  | .error _ => f

/-- The fleet after the events of a step. -/
def applyAll (f : Fleet) (mission : Int) (now : Nat) (events : List SessionEvent) : Fleet :=
  events.foldl (fun f e => f.apply mission now e) f

end Fleet

end RoverDispatch
