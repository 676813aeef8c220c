import RoverDispatch.Fleet.Draft
import RoverDispatch.Fleet.Record
import RoverDispatch.Table

/-!
# Fleets

The rovers and missions of a coordinator.

A fleet is two tables by number. Assigning a mission ties a rover and a
mission to each other; every way out of an assignment unties both. What a
session reports is about a mission, and it reaches a rover only as long as
that very mission holds the rover, so that news of an assignment that has been
taken back cannot touch a rover that another mission holds by then.

Missions are numbered for ever. The numbers agree with numbers of 32 bits and a
sign for the first 2 ^ 31 - 1 missions.

## Main definitions

* `FleetError`: Why an operation is refused.
* `Fleet`: Rovers and missions.
* `Fleet.register`, `Fleet.intake`, `Fleet.submit`: New rovers and missions.
* `Fleet.available`, `Fleet.engaged`, `Fleet.pendingMissions`: What can be
  assigned.
* `Fleet.assign`: Tying a rover and a mission.
* `Fleet.confirm`, `Fleet.recordProgress`, `Fleet.complete`, `Fleet.fail`,
  `Fleet.abandon`, `Fleet.revert`: What becomes of an assignment.
* `Fleet.releaseOrphan`, `Fleet.recoverFaulted`: Setting rovers free.
-/

namespace RoverDispatch

/-- Why a rover and a mission cannot be tied. -/
inductive AssignmentObstacle where
  | roverNotAvailable
  | missionNotPending
  deriving DecidableEq, Inhabited

/-- The wording of an obstacle. -/
def AssignmentObstacle.message : AssignmentObstacle → String
  | roverNotAvailable => "rover is not available"
  | missionNotPending => "mission is not pending"

/-- Why an operation on a fleet is refused. -/
inductive FleetError where
  | invalidMission (defect : DraftDefect)
  | unknownRover (rover : Int)
  | unknownMission (mission : Int)
  | notAssignable (rover mission : Int) (obstacle : AssignmentObstacle)
  deriving DecidableEq, Inhabited

/-- The wording of an error. -/
def FleetError.message : FleetError → String
  | invalidMission defect => "invalid mission: " ++ defect.message
  | unknownRover rover => "unknown rover " ++ toString rover
  | unknownMission mission => "unknown mission " ++ toString mission
  | notAssignable rover mission obstacle =>
    "cannot assign mission " ++ toString mission ++ " to rover " ++ toString rover ++ ": " ++
      obstacle.message

/-- Rovers and missions by their numbers, and the number of the next
    mission. -/
structure Fleet where
  rovers : Table Int RoverRecord
  missions : Table Int MissionRecord
  nextMission : Int
  deriving DecidableEq

/-- A rover that was held without a session and has been set free, the mission
    in its record, and whether that mission is pending again. -/
structure Release where
  rover : Int
  mission? : Option Int
  reverted : Bool
  deriving DecidableEq, Inhabited

/-- The mission of a release. Rovers that are held have one in their records. -/
def Release.mission (r : Release) : Int := r.mission?.getD 0

namespace Fleet

/-- A fleet without rovers and missions. -/
def empty : Fleet := ⟨∅, ∅, 1⟩

/-! ### Rovers and missions -/

/-- A rover joins, or a known one has another address. -/
def register (f : Fleet) (rover : Int) (endpoint : Option SocketAddress) : Fleet :=
  match f.rovers.find? rover with
  | none => { f with rovers := f.rovers.insert rover (.start endpoint) }
  | some r =>
    -- Without a new address the old one stays.
    { f with rovers := f.rovers.insert rover { r with endpoint := endpoint.or r.endpoint } }

/-- A known rover has another address. -/
def setEndpoint (f : Fleet) (rover : Int) (endpoint : SocketAddress) : Except FleetError Fleet :=
  match f.rovers.find? rover with
  | none => .error (.unknownRover rover)
  | some r =>
    .ok { f with rovers := f.rovers.insert rover { r with endpoint := some endpoint } }

/-- A draft is handed in at a time in seconds: the number of the mission that it
    becomes. A draft with a defect is refused before it gets a number; the
    mission is checked once more when it has one. -/
def intake (f : Fleet) (d : Draft) (now : Int) : Except FleetError Int × Fleet :=
  match d.defect? with
  | some defect => (.error (.invalidMission defect), f)
  | none =>
    let id := f.nextMission
    -- The number is used up from here on.
    let f := { f with nextMission := id + 1 }
    match d.toMission id now with
    | .error defect => (.error (.invalidMission defect), f)
    | .ok mission => (.ok id, { f with missions := f.missions.insert id (.pending mission) })

/-- A draft is handed in: the number of the mission and the fleet that has it. -/
def submit (f : Fleet) (d : Draft) (now : Int) : Except FleetError (Int × Fleet) :=
  match f.intake d now with
  | (.error e, _) => .error e
  | (.ok id, f) => .ok (id, f)

/-- The rovers in some state, in the order of their numbers. -/
def roversIn (f : Fleet) (p : RoverState → Bool) : List Int :=
  (f.rovers.entries.filter (fun e => p e.2.state)).map Prod.fst

/-- The rovers that can be assigned a mission. -/
def available (f : Fleet) : List Int := f.roversIn (fun s => s.status == .available)

/-- The rovers that are held by a mission. -/
def engaged (f : Fleet) : List Int := f.roversIn RoverState.isEngaged

/-- The order in which missions are assigned: higher priorities first, and
    lower numbers first among equals. -/
def before (a b : Mission) : Bool :=
  b.priority < a.priority || (a.priority == b.priority && a.id ≤ b.id)

/-- The missions that wait for a rover, in the order in which they are
    assigned. -/
def pendingMissions (f : Fleet) : List Mission :=
  let waiting := f.missions.values.filter (fun m => m.state.status == .pending)
  (waiting.map MissionRecord.mission).mergeSort before

/-! ### Assignments -/

/-- A rover that a mission has been reserved for. -/
def reserved (r : RoverRecord) (mission : Int) : RoverRecord :=
  { r with state.status := .receiving, state.mission? := some mission, progress := .zero }

/-- A mission that a rover has been reserved for. -/
def assigned (m : MissionRecord) (rover : Int) : MissionRecord :=
  { m with
    state := { status := .assigned, rover? := some rover, failure? := none }
    attempts := m.attempts + 1, progress := .zero, reports := 0 }

/-- Tie an available rover and a pending mission. The rover is reserved first
    and set free again if the mission cannot be had. -/
def assign (f : Fleet) (rover mission : Int) : Except FleetError Mission × Fleet :=
  match f.rovers.find? rover with
  | none => (.error (.unknownRover rover), f)
  | some r =>
    if r.state.status ≠ .available then
      (.error (.notAssignable rover mission .roverNotAvailable), f)
    else
      let r := reserved r mission
      -- What the rollback puts back: its progress is gone by then.
      let free := { f with
        rovers := f.rovers.insert rover
          { r with state.status := .available, state.mission? := none } }
      match f.missions.find? mission with
      | none => (.error (.unknownMission mission), free)
      | some m =>
        if m.state.status ≠ .pending then
          (.error (.notAssignable rover mission .missionNotPending), free)
        else
          (.ok m.mission,
            { f with
              rovers := f.rovers.insert rover r
              missions := f.missions.insert mission (assigned m rover) })

/-- Change a rover, provided that the mission holds it. -/
def changeRover (f : Fleet) (rover : Option Int) (mission : Int)
    (change : RoverRecord → RoverRecord) : Fleet :=
  match rover with
  | none => f
  | some rover =>
    { f with
      rovers := f.rovers.modify rover (fun r =>
        if r.state.mission? = some mission then change r else r) }

/-- The rover is free again. -/
def freed (r : RoverRecord) : RoverRecord :=
  { r with state.status := .available, state.mission? := none, progress := .zero }

/-- Change the record of a mission. -/
def setMission (f : Fleet) (mission : Int) (m : MissionRecord) : Fleet :=
  { f with missions := f.missions.insert mission m }

/-- The rover has the mission. -/
def confirm (f : Fleet) (mission : Int) : Except FleetError Fleet :=
  match f.missions.find? mission with
  | none => .error (.unknownMission mission)
  | some m =>
    let state :=
      -- A mission that has ended is left as it is, and one in progress is so already.
      if m.state.status = .assigned then { m.state with status := .inProgress } else m.state
    .ok ((f.setMission mission { m with state }).changeRover m.state.rover? mission
      (fun r => { r with state.status := .onMission }))

/-- The rover reports progress. That of a mission nobody holds is ignored. -/
def recordProgress (f : Fleet) (mission : Int) (p : Progress) : Except FleetError Fleet :=
  match f.missions.find? mission with
  | none => .error (.unknownMission mission)
  | some m =>
    if m.state.isActive then
      let m := { m with
        state.status := .inProgress, progress := p.percent, elapsed := p.elapsed
        reports := m.reports + 1 }
      .ok ((f.setMission mission m).changeRover m.state.rover? mission
        (fun r => { r with state.status := .onMission, progress := p.percent }))
    else .ok f

/-- A mission that a rover holds comes to an end. The end of one that nobody
    holds is ignored. -/
def finish (f : Fleet) (mission : Int) (status : MissionStatus)
    (failure? : Option MissionFailure) (progress : Option Single)
    (change : RoverRecord → RoverRecord) : Except FleetError Fleet :=
  match f.missions.find? mission with
  | none => .error (.unknownMission mission)
  | some m =>
    if m.state.isActive then
      let m := { m with
        state.status := status, state.failure? := failure?
        progress := progress.getD m.progress }
      .ok ((f.setMission mission m).changeRover m.state.rover? mission change)
    else .ok f

/-- The mission is completed. -/
def complete (f : Fleet) (mission : Int) : Except FleetError Fleet :=
  f.finish mission .completed none (some .hundred) freed

/-- The rover reports an error and is out of order. -/
def fail (f : Fleet) (mission : Int) (e : ErrorReport) (now : Nat) : Except FleetError Fleet :=
  f.finish mission .failed (some ⟨some e.fault.code, e.description⟩) (some e.progress)
    (fun r => { r with
      state := { status := .fault, mission? := none, faultSince? := some now }
      battery := e.battery, x := e.x, y := e.y, progress := e.progress })

/-- The session fails after progress was reported: the mission has failed, and
    its rover is free. -/
def abandon (f : Fleet) (mission : Int) (reason : String) : Except FleetError Fleet :=
  f.finish mission .failed (some ⟨none, reason⟩) none freed

/-- The assignment is taken back: the mission is pending again, and its rover
    is free. -/
def revert (f : Fleet) (mission : Int) : Except FleetError Fleet :=
  match f.missions.find? mission with
  | none => .error (.unknownMission mission)
  | some m =>
    -- What has ended is not taken back.
    if m.state.isFinished then .ok f
    else
      let reverted := { m with
        state.status := .pending, state.rover? := none
        progress := .zero, elapsed := 0, reports := 0 }
      .ok ((f.setMission mission reverted).changeRover m.state.rover? mission freed)

/-- A session fails: the mission is abandoned if progress was reported, and
    pending again otherwise. -/
def withdraw (f : Fleet) (mission : Int) (progressSeen : Bool) (reason : String) :
    Except FleetError Fleet :=
  if progressSeen then f.abandon mission reason else f.revert mission

/-! ### Setting rovers free -/

/-- A rover that a mission holds without a session is free again. Its mission
    is pending again unless progress was reported. -/
def releaseOrphan (f : Fleet) (rover : Int) : Option (Release × Fleet) :=
  match f.rovers.find? rover with
  | none => none
  | some r =>
    if r.state.isEngaged then
      -- The rover is free in any case, whatever becomes of its mission.
      let f := { f with rovers := f.rovers.insert rover (freed r) }
      match r.state.mission? with
      | none => some (⟨rover, none, false⟩, f)
      | some mission =>
        match f.missions.find? mission with
        | none => some (⟨rover, mission, false⟩, f)
        | some m =>
          let progressSeen := 0 < m.reports
          match f.withdraw mission progressSeen "session lost after progress" with
          | .error _ => some (⟨rover, mission, false⟩, f)
          | .ok f => some (⟨rover, mission, !progressSeen⟩, f)
    else none

/-- Rovers that have been out of order for long enough are available again. -/
def recoverFaulted (f : Fleet) (now cooldown : Nat) : List Int × Fleet :=
  let recovers (r : RoverRecord) : Bool :=
    r.state.status = .fault ∧ cooldown ≤ now - r.state.faultSince?.getD 0
  (((f.rovers.entries.filter (fun e => recovers e.2)).map Prod.fst),
    { f with
      rovers := f.rovers.mapValues (fun _ r =>
        if recovers r then { r with state.status := .available, state.faultSince? := none }
        else r) })

end Fleet

end RoverDispatch
