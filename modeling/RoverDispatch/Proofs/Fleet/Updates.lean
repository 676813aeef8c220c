import RoverDispatch.Fleet.Basic
import RoverDispatch.Proofs.Fleet.Engagements
import RoverDispatch.Proofs.Table

/-!
# Updates

What reports on a mission do to it and to the rover that holds it.

There are six reports, and they differ only in what becomes of the two records.
On a mission that a rover holds, each of them replaces just these two, which is
`Fleet.put`. Taking a mission back is one of two such updates, and so is
releasing its rover, which only frees the rover first.

## Main definitions

* `Fleet.Update`, `Fleet.update`: What can be reported on a mission.
* `Fleet.Update.rover`, `Fleet.Update.mission`: What becomes of the records.
* `Fleet.put`: A new record of a rover and a new record of a mission.
* `Fleet.Held`: A rover, a mission that holds it, and their records.
* `Fleet.withdrawal`: How a mission is withdrawn.

## Theorems

* `Fleet.Update.payload_mission`: What no report changes.
* `Fleet.Held.update`: What an update does to a mission that is held.
* `Fleet.Held.withdraw`: Withdrawing a mission is an update.
* `Fleet.Held.releaseOrphan`: Releasing a rover withdraws its mission.
-/

namespace RoverDispatch

namespace Fleet

/-- What can be reported on a mission. -/
inductive Update where
  | confirm
  | recordProgress (p : Progress)
  | complete
  | fail (e : ErrorReport) (now : Nat)
  | abandon (reason : String)
  | revert
  deriving DecidableEq

/-- A report on a mission. -/
def update (f : Fleet) (mission : Int) : Update → Except FleetError Fleet
  | .confirm => f.confirm mission
  | .recordProgress p => f.recordProgress mission p
  | .complete => f.complete mission
  | .fail e now => f.fail mission e now
  | .abandon reason => f.abandon mission reason
  | .revert => f.revert mission

/-! ### Assignments and their records -/

/-- A new record of a rover and a new record of a mission. -/
def put (f : Fleet) (rover : Int) (r : RoverRecord) (mission : Int) (m : MissionRecord) : Fleet :=
  { f with rovers := f.rovers.insert rover r, missions := f.missions.insert mission m }

/-- A rover and the mission that holds it, with their records. -/
structure Held (f : Fleet) (rover : Int) (r : RoverRecord) (mission : Int) (m : MissionRecord) :
    Prop where
  roverRecord : f.rovers.find? rover = some r
  missionRecord : f.missions.find? mission = some m
  engaged : Engagement rover mission r.state m.state

/-- A rover that has been set free. -/
def released (r : RoverRecord) : RoverRecord :=
  { r with state := .available, progress := .zero }

/-- A mission that has not been assigned, or not again. -/
def reverted (m : MissionRecord) : MissionRecord :=
  { m with state := .pending, progress := .zero, elapsed := 0, reports := 0 }

namespace Update

/-- What becomes of the rover that a mission holds. -/
def rover (mission : Int) (r : RoverRecord) : Update → RoverRecord
  | confirm => { r with state := .onMission mission }
  | recordProgress p => { r with state := .onMission mission, progress := p.percent }
  | complete => released r
  | fail e now => { r with
      state := .fault now, battery := e.battery, x := e.x, y := e.y, progress := e.progress }
  | abandon _ => released r
  | revert => released r

/-- What becomes of a mission that a rover holds. -/
def mission (rover : Int) (m : MissionRecord) : Update → MissionRecord
  | confirm => { m with state := .inProgress rover }
  | recordProgress p => { m with
      state := .inProgress rover, progress := p.percent, elapsed := p.elapsed
      reports := m.reports + 1 }
  | complete => { m with state := .completed rover, progress := .hundred }
  | fail e _ => { m with
      state := .failed rover ⟨some e.fault.code, e.description⟩, progress := e.progress }
  | abandon reason => { m with state := .failed rover ⟨none, reason⟩ }
  | revert => reverted m

/-- No report changes what a mission asks for. -/
theorem payload_mission (u : Update) (rover : Int) (m : MissionRecord) :
    (u.mission rover m).mission = m.mission := by
  cases u <;> rfl

end Update

/-- How a mission is withdrawn. -/
def withdrawal (progressSeen : Bool) (reason : String) : Update :=
  if progressSeen then .abandon reason else .revert

/-! ### Missions that are held -/

variable {f f' : Fleet} {rover mission : Int} {r r' : RoverRecord} {m m' : MissionRecord}

/-- A rover that the mission holds changes with it. -/
theorem changeRover_setMission (hr : f.rovers.find? rover = some r)
    (hmission : r.state.mission? = some mission) (m' : MissionRecord)
    (change : RoverRecord → RoverRecord) :
    (f.setMission mission m').changeRover (some rover) mission change =
      f.put rover (change r) mission m' := by
  simp only [changeRover, setMission, put, Table.modify_eq_insert hr, if_pos hmission]

/-- An assignment depends on nothing but its two records. -/
theorem Held.congr (h : f.Held rover r mission m)
    (hrover : f'.rovers.find? rover = f.rovers.find? rover)
    (hmission : f'.missions.find? mission = f.missions.find? mission) :
    f'.Held rover r mission m :=
  ⟨hrover.trans h.roverRecord, hmission.trans h.missionRecord, h.engaged⟩

/-- A rover that is set free keeps nothing of its mission. -/
theorem Held.freed_eq (h : f.Held rover r mission m) : freed r = released r := by
  simp only [freed, released, h.engaged.rover_freed]

theorem Held.finish (h : f.Held rover r mission m) (status : MissionStatus)
    (failure? : Option MissionFailure) (progress : Option Single)
    (change : RoverRecord → RoverRecord) :
    f.finish mission status failure? progress change = .ok (f.put rover (change r) mission
      { m with state := ⟨status, some rover, failure?⟩, progress := progress.getD m.progress }) := by
  simp only [Fleet.finish, h.missionRecord, h.engaged.isActive, if_true, h.engaged.rover?_eq,
    changeRover_setMission h.roverRecord h.engaged.mission?_eq]

/-- A mission that comes to an end and leaves its rover free. -/
theorem Held.finish_freed (h : f.Held rover r mission m) (status : MissionStatus)
    (failure? : Option MissionFailure) (progress : Option Single) :
    f.finish mission status failure? progress freed = .ok (f.put rover (released r) mission
      { m with state := ⟨status, some rover, failure?⟩, progress := progress.getD m.progress }) := by
  rw [h.finish, h.freed_eq]

theorem Held.confirm (h : f.Held rover r mission m) :
    f.confirm mission = .ok (f.put rover { r with state := .onMission mission } mission
      { m with state := .inProgress rover }) := by
  simp only [Fleet.confirm, h.missionRecord, h.engaged.mission_confirmed]
  -- The state that was written is known as a whole, so the rover can be read.
  simp only [h.engaged.rover?_eq, changeRover_setMission h.roverRecord h.engaged.mission?_eq,
    h.engaged.rover_working]

theorem Held.recordProgress (h : f.Held rover r mission m) (p : Progress) :
    f.recordProgress mission p = .ok (f.put rover
      { r with state := .onMission mission, progress := p.percent } mission
      { m with
        state := .inProgress rover, progress := p.percent, elapsed := p.elapsed
        reports := m.reports + 1 }) := by
  simp only [Fleet.recordProgress, h.missionRecord, h.engaged.isActive, if_true,
    h.engaged.mission_working]
  simp only [h.engaged.rover?_eq, changeRover_setMission h.roverRecord h.engaged.mission?_eq,
    h.engaged.rover_working]

theorem Held.revert (h : f.Held rover r mission m) :
    f.revert mission = .ok (f.put rover (released r) mission (reverted m)) := by
  simp only [Fleet.revert, h.missionRecord, h.engaged.isFinished_eq, Bool.false_eq_true, if_false,
    h.engaged.mission_reverted, h.engaged.rover?_eq,
    changeRover_setMission h.roverRecord h.engaged.mission?_eq, h.freed_eq, reverted]

/-- An update of a mission that is held replaces its record and that of the
    rover, and nothing else. -/
theorem Held.update (h : f.Held rover r mission m) (u : Update) :
    f.update mission u =
      .ok (f.put rover (u.rover mission r) mission (u.mission rover m)) := by
  cases u with
  | confirm => exact h.confirm
  | recordProgress p => exact h.recordProgress p
  | complete => exact h.finish_freed .completed none (some .hundred)
  | fail e now => exact h.finish .failed _ (some e.progress) _
  | abandon reason => exact h.finish_freed .failed (some ⟨none, reason⟩) none
  | revert => exact h.revert

/-- An update of an unknown mission is refused. -/
theorem update_unknown (h : f.missions.find? mission = none) (u : Update) :
    f.update mission u = .error (.unknownMission mission) := by
  cases u with
  | confirm => simp only [update, Fleet.confirm, h]
  | recordProgress p => simp only [update, Fleet.recordProgress, h]
  | complete => simp only [update, Fleet.complete, Fleet.finish, h]
  | fail e now => simp only [update, Fleet.fail, Fleet.finish, h]
  | abandon reason => simp only [update, Fleet.abandon, Fleet.finish, h]
  | revert => simp only [update, Fleet.revert, h]

theorem find?_put_rover : (f.put rover r mission m).rovers.find? rover = some r :=
  Table.find?_insert_self _ _ _

theorem find?_put_mission : (f.put rover r mission m).missions.find? mission = some m :=
  Table.find?_insert_self _ _ _

/-- The other rovers keep their records. -/
theorem find?_put_rover_of_ne {rover' : Int} (h : rover' ≠ rover) :
    (f.put rover r mission m).rovers.find? rover' = f.rovers.find? rover' :=
  Table.find?_insert_of_ne _ h _

/-- The other missions keep their records. -/
theorem find?_put_mission_of_ne {mission' : Int} (h : mission' ≠ mission) :
    (f.put rover r mission m).missions.find? mission' = f.missions.find? mission' :=
  Table.find?_insert_of_ne _ h _

/-- An assignment goes on with other records. -/
theorem Held.put (engaged : Engagement rover mission r'.state m'.state) :
    (f.put rover r' mission m').Held rover r' mission m' :=
  ⟨find?_put_rover, find?_put_mission, engaged⟩

/-- A rover that is free already is not changed with the mission. -/
theorem changeRover_released (mission : Int) (m' : MissionRecord) :
    ({ f with rovers := f.rovers.insert rover (released r) }.setMission mission m').changeRover
      (some rover) mission freed = f.put rover (released r) mission m' := by
  have hsame : (f.rovers.insert rover (released r)).modify rover
      (fun r => if r.state.mission? = some mission then freed r else r) =
      f.rovers.insert rover (released r) := by
    refine Table.modify_eq_self (fun v hv => if_neg ?_)
    rw [Table.find?_insert_self] at hv
    cases hv
    exact nofun
  simp only [changeRover, setMission, put, hsame]

/-! ### Withdrawing a mission -/

/-- Withdrawing a mission is one of two updates. -/
theorem withdraw_eq_update (f : Fleet) (mission : Int) (progressSeen : Bool) (reason : String) :
    f.withdraw mission progressSeen reason =
      f.update mission (withdrawal progressSeen reason) := by
  cases progressSeen <;> rfl

/-- Either of them frees the rover. -/
theorem rover_withdrawal (progressSeen : Bool) (reason : String) (mission : Int)
    (r : RoverRecord) : (withdrawal progressSeen reason).rover mission r = released r := by
  cases progressSeen <;> rfl

theorem Held.withdraw (h : f.Held rover r mission m) (progressSeen : Bool) (reason : String) :
    f.withdraw mission progressSeen reason = .ok (f.put rover (released r) mission
      ((withdrawal progressSeen reason).mission rover m)) := by
  rw [withdraw_eq_update, h.update, rover_withdrawal]

/-- A rover that is released without a session is freed, and its mission is
    withdrawn according to whether progress was recorded. -/
theorem Held.releaseOrphan (h : f.Held rover r mission m) :
    f.releaseOrphan rover = some (⟨rover, some mission, !decide (0 < m.reports)⟩,
      f.put rover (released r) mission
        ((withdrawal (decide (0 < m.reports)) "session lost after progress").mission rover m)) := by
  simp only [Fleet.releaseOrphan, h.roverRecord, h.engaged.isEngaged, if_true,
    h.engaged.mission?_eq, h.missionRecord, h.freed_eq]
  -- The rover has been freed by then, so the mission does not change it again.
  by_cases hseen : 0 < m.reports
  · simp only [hseen, decide_true, Fleet.withdraw, if_true, Fleet.abandon, Fleet.finish,
      h.missionRecord, h.engaged.isActive, h.engaged.rover?_eq, changeRover_released]
    rfl
  · simp only [hseen, decide_false, Fleet.withdraw, Bool.false_eq_true, if_false, Fleet.revert,
      h.missionRecord, h.engaged.isFinished_eq, h.engaged.mission_reverted, h.engaged.rover?_eq,
      changeRover_released]
    rfl

end Fleet

end RoverDispatch
