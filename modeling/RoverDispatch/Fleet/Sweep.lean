import RoverDispatch.Fleet.Basic
import RoverDispatch.Fleet.Registry

/-!
# Sweeps

Bringing sessions and fleet back into line.

A sweep removes the entries of sessions that have ended, except while they say
farewell, and of sessions that have been silent for too long; the missions of
the latter are withdrawn. Then every rover that a mission holds without a
session is set free, and rovers that have been out of order for long enough
are available again.

## Main definitions

* `SweepReport`: What a sweep has found.
* `Dispatcher`: A fleet with its sessions.
* `Dispatcher.sweep`: One sweep.
-/

namespace RoverDispatch

/-- What a sweep has found, rovers in the order of their numbers. -/
structure SweepReport where
  /-- Sessions that have been silent for too long. -/
  stale : List Int
  /-- Sessions that have ended and were still there. -/
  terminal : List Int
  /-- Rovers that were held without a session. -/
  orphans : List Release
  /-- Rovers that are no longer out of order. -/
  recovered : List Int
  deriving DecidableEq, Inhabited

/-- The sweep has found nothing. -/
def SweepReport.isEmpty (r : SweepReport) : Bool :=
  r.stale.isEmpty && r.terminal.isEmpty && r.orphans.isEmpty && r.recovered.isEmpty

/-- A fleet with its sessions. -/
structure Dispatcher (π : Type) where
  fleet : Fleet
  registry : Registry π
  deriving DecidableEq

/-- How long sessions may be silent and rovers out of order. -/
structure SweepLimits where
  inactivity : Nat
  cooldown : Nat
  deriving DecidableEq, Inhabited

namespace Dispatcher

variable {π : Type}

/-- A dispatcher without rovers, missions and sessions. -/
def empty : Dispatcher π := ⟨.empty, .empty⟩

/-- What is to be done about a session. -/
inductive Finding where
  | keep
  | removeEnded
  | removeStale
  deriving DecidableEq, Inhabited

/-- What is to be done about a session with a status. -/
def finding (limits : SweepLimits) (now : Nat) (s : SessionStatus) : Finding :=
  if s.terminal then if s.sayingFarewell then .keep else .removeEnded
  -- A status from the future has been silent for no time.
  else if now - s.lastActivity ≤ limits.inactivity then .keep
  else .removeStale

/-- Look at the session of a rover. -/
def sweepSession (limits : SweepLimits) (now : Nat) (d : Dispatcher π)
    (session : Int × Int × SessionStatus) : Dispatcher π :=
  let (rover, mission, status) := session
  match finding limits now status with
  | .keep => d
  | .removeEnded => { d with registry := d.registry.remove rover mission }
  | .removeStale =>
    { fleet := (d.fleet.withdraw mission status.progressSeen "session inactive").toOption.getD d.fleet
      registry := d.registry.remove rover mission }

/-- The rovers of the sessions about which one thing is to be done. -/
def roversWith (limits : SweepLimits) (now : Nat) (f : Finding)
    (sessions : List (Int × Int × SessionStatus)) : List Int :=
  (sessions.filter (fun s => finding limits now s.2.2 == f)).map Prod.fst

/-- Set a rover free if a mission holds it. -/
def releaseOne (found : List Release × Fleet) (rover : Int) : List Release × Fleet :=
  match found.2.releaseOrphan rover with
  | none => found
  | some (release, fleet) => (found.1 ++ [release], fleet)

/-- Set free the rovers that are held without a session. -/
def releaseOrphans (d : Dispatcher π) : List Release × Fleet :=
  (d.fleet.engaged.filter (fun rover => !d.registry.contains rover)).foldl releaseOne ([], d.fleet)

/-- Bring sessions and fleet back into line. -/
def sweep (d : Dispatcher π) (limits : SweepLimits) (now : Nat) : SweepReport × Dispatcher π :=
  -- All rules go by the statuses as they are when the sweep begins.
  let sessions := d.registry.sessions
  let d := sessions.foldl (sweepSession limits now) d
  let (orphans, fleet) := d.releaseOrphans
  let (recovered, fleet) := fleet.recoverFaulted now limits.cooldown
  ({ stale := roversWith limits now .removeStale sessions
     terminal := roversWith limits now .removeEnded sessions
     orphans, recovered },
    { d with fleet })

end Dispatcher

end RoverDispatch
