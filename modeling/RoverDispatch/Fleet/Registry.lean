import RoverDispatch.Session.Supervisor
import RoverDispatch.Table

/-!
# Session Registries

Which sessions are running, and how messages reach them.

A rover has one session at a time. Reserving the rover's entry gives the
session a desk of its own: an inbox that messages for the rover and its
mission are put into, and a status that others may read. The session keeps its
desk even if the entry is taken away from it, and can finish reading what is
in the inbox; but nothing new gets there, and once the inbox is empty the
session learns that it has been cut off. Desks are numbered in the order of
the reservations, so a later reservation of the same entry has another desk.

## Main definitions

* `SessionStatus`: What a session lets others know.
* `Desk`, `Registry`: Sessions by rover.
* `Registry.reserve`, `Registry.remove`: Beginning and end of an entry.
* `Registry.dispatch`, `Registry.receive`: A packet on its way to a session.
* `Registry.touch`, `Registry.publish`: Changes of a status.
-/

namespace RoverDispatch

/-- What a session lets others know. -/
structure SessionStatus where
  lastActivity : Nat
  terminal : Bool
  sayingFarewell : Bool
  progressSeen : Bool
  deriving DecidableEq, Inhabited

namespace SessionStatus

/-- The status of a session that has just been reserved. -/
def start (now : Nat) : SessionStatus := ⟨now, false, false, false⟩

/-- The rover has been heard of; time does not run backwards. -/
def touch (s : SessionStatus) (now : Nat) : SessionStatus :=
  { s with lastActivity := max s.lastActivity now }

/-- The status of a session as it is now. -/
def publish (s : SessionStatus) (session : Supervisor) : SessionStatus :=
  { lastActivity := max s.lastActivity session.lastActivity
    terminal := session.isTerminal
    sayingFarewell := session.isSayingFarewell
    progressSeen := session.log.progressSeen }

end SessionStatus

/-- The desk of a session: its status, what is in the inbox, the oldest first,
    and whether anybody still reads it. -/
structure Desk (π : Type) where
  status : SessionStatus
  inbox : List π
  attended : Bool
  deriving DecidableEq, Inhabited

/-- A rover's entry: the mission of its session and the number of its desk. -/
structure Entry where
  mission : Int
  desk : Nat
  deriving DecidableEq, Inhabited

/-- Sessions by rover, and all desks there have been. -/
structure Registry (π : Type) where
  entries : Table Int Entry
  desks : Table Nat (Desk π)
  nextDesk : Nat
  deriving DecidableEq

/-- What a session finds when it looks into its inbox. -/
inductive Received (π : Type) where
  | packet (p : π)
  | empty
  /-- The inbox is empty and will stay so. -/
  | cutOff
  deriving DecidableEq

namespace Registry

variable {π : Type}

/-- A registry without sessions. -/
def empty : Registry π := ⟨∅, ∅, 0⟩

/-- Whether a rover has a session. -/
def contains (r : Registry π) (rover : Int) : Bool := r.entries.contains rover

/-- Reserve the entry of a rover without a session: the number of the desk. -/
def reserve (r : Registry π) (rover mission : Int) (now : Nat) : Option (Nat × Registry π) :=
  if r.contains rover then none
  else
    some (r.nextDesk,
      { entries := r.entries.insert rover ⟨mission, r.nextDesk⟩
        desks := r.desks.insert r.nextDesk ⟨.start now, [], true⟩
        nextDesk := r.nextDesk + 1 })

/-- Whether a rover has a session for the mission. -/
def holds (r : Registry π) (rover mission : Int) : Bool :=
  (r.entries.find? rover).any (fun e => e.mission = mission)

/-- Take away the entry of a rover if it is for the mission. -/
def remove (r : Registry π) (rover mission : Int) : Registry π :=
  -- Whose desk it is is not asked, only the rover and the mission.
  if r.holds rover mission then { r with entries := r.entries.erase rover } else r

/-- Put a packet into the inbox of the session for a rover and a mission, if
    there is one and it is still read. -/
def dispatch (r : Registry π) (rover mission : Int) (p : π) : Option (Registry π) := do
  let e ← r.entries.find? rover
  if e.mission = mission then
    let d ← r.desks.find? e.desk
    if d.attended then
      some { r with desks := r.desks.insert e.desk { d with inbox := d.inbox ++ [p] } }
    else none
  else none

/-- Whether a desk belongs to an entry, so that packets can still come. -/
def isConnected (r : Registry π) (desk : Nat) : Bool :=
  r.entries.values.any (fun e => e.desk = desk)

/-- Take the next packet from an inbox. -/
def receive (r : Registry π) (desk : Nat) : Received π × Registry π :=
  match r.desks.find? desk with
  | none => (.cutOff, r)
  | some d =>
    match d.inbox with
    -- What is in the inbox can still be read when the entry is gone.
    | [] => (if r.isConnected desk then .empty else .cutOff, r)
    | p :: inbox => (.packet p, { r with desks := r.desks.insert desk { d with inbox } })

/-- Nobody reads an inbox any more. -/
def leave (r : Registry π) (desk : Nat) : Registry π :=
  { r with desks := r.desks.modify desk (fun d => { d with inbox := [], attended := false }) }

/-- Change the status at a desk. -/
def changeStatus (r : Registry π) (desk : Nat) (change : SessionStatus → SessionStatus) :
    Registry π :=
  { r with desks := r.desks.modify desk (fun d => { d with status := change d.status }) }

/-- The rover of a desk has been heard of. -/
def touch (r : Registry π) (desk : Nat) (now : Nat) : Registry π :=
  r.changeStatus desk (·.touch now)

/-- The session of a desk makes its status known. -/
def publish (r : Registry π) (desk : Nat) (session : Supervisor) : Registry π :=
  r.changeStatus desk (·.publish session)

/-- The sessions with their statuses, in the order of their rovers. -/
def sessions (r : Registry π) : List (Int × Int × SessionStatus) :=
  r.entries.entries.filterMap (fun e =>
    (r.desks.find? e.2.desk).map (fun d => (e.1, e.2.mission, d.status)))

end Registry

end RoverDispatch
