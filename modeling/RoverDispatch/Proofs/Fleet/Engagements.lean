import RoverDispatch.Fleet.Record

/-!
# Engagements

The states of a rover and of a mission that belong together.

The state of a rover has three fields and so has that of a mission, and only a
few of their combinations mean something. Those are named here, such as
`RoverState.onMission` for a rover that has its mission and is not out of
order. A rover that no mission holds is in one of two states, and a mission
that no rover holds in one of three. If they hold each other, their states go
together as `Engagement` says.

An operation writes one or two fields and relies on the others. What comes of
that is stated field by field below, so that nothing later looks into a state.

## Main definitions

* `RoverState.available`, `RoverState.receiving`, `RoverState.onMission`,
  `RoverState.fault`: The states of rovers.
* `RoverState.IsFree`: No mission holds the rover.
* `MissionState.pending`, `MissionState.assigned`, `MissionState.inProgress`,
  `MissionState.completed`, `MissionState.failed`: The states of missions.
* `MissionState.IsIdle`: No rover holds the mission.
* `MissionState.holder?`: The rover that holds a mission.
* `Engagement`: The states of a rover and of the mission that holds it.
* `Matched`: A rover and a mission that are tied to each other or both free.

## Theorems

* `RoverState.IsFree.fault_iff`: A free rover is out of order since some time,
  or not at all.
* `MissionState.IsIdle.failed_iff`: An idle mission failed for a reason, or not
  at all.
* `Engagement.statuses`: The statuses of an engagement go together.
* `Engagement.rover_freed`, `Engagement.mission_reverted`: What is written over
  the states of an engagement leaves nothing of it.
* `Matched.of_mission?`, `Matched.of_holder?`: If either is held, it is by the
  other.
-/

namespace RoverDispatch

namespace RoverState

/-- A rover that can be assigned a mission. -/
def available : RoverState := ⟨.available, none, none⟩

/-- A rover that a mission is on its way to. -/
def receiving (mission : Int) : RoverState := ⟨.receiving, some mission, none⟩

/-- A rover that has its mission. -/
def onMission (mission : Int) : RoverState := ⟨.onMission, some mission, none⟩

/-- A rover that has been out of order since a time in milliseconds. -/
def fault (since : Nat) : RoverState := ⟨.fault, none, some since⟩

/-- No mission holds the rover. -/
inductive IsFree : RoverState → Prop where
  | available : IsFree .available
  | fault (since : Nat) : IsFree (.fault since)

variable {s : RoverState}

theorem IsFree.mission?_eq (h : s.IsFree) : s.mission? = none := by
  cases h <;> rfl

theorem IsFree.isEngaged_eq (h : s.IsFree) : s.isEngaged = false := by
  cases h <;> rfl

theorem IsFree.eq_available (h : s.IsFree) (hstatus : s.status = .available) :
    s = .available := by
  cases h with
  | available => rfl
  | fault since => cases hstatus

theorem IsFree.fault_iff (h : s.IsFree) :
    s.status = .fault ↔ s.faultSince?.isSome = true := by
  cases h with
  | available => exact ⟨nofun, nofun⟩
  | fault since => exact ⟨fun _ => rfl, fun _ => rfl⟩

end RoverState

namespace MissionState

/-- A mission that waits for a rover. -/
def pending : MissionState := ⟨.pending, none, none⟩

/-- A mission on its way to a rover. -/
def assigned (rover : Int) : MissionState := ⟨.assigned, some rover, none⟩

/-- A mission that a rover has. -/
def inProgress (rover : Int) : MissionState := ⟨.inProgress, some rover, none⟩

/-- A mission that a rover has completed. -/
def completed (rover : Int) : MissionState := ⟨.completed, some rover, none⟩

/-- A mission that failed while a rover held it. -/
def failed (rover : Int) (failure : MissionFailure) : MissionState :=
  ⟨.failed, some rover, some failure⟩

/-- The rover that holds the mission now. -/
def holder? (s : MissionState) : Option Int := if s.isActive then s.rover? else none

/-- No rover holds the mission. -/
inductive IsIdle : MissionState → Prop where
  | pending : IsIdle .pending
  | completed (rover : Int) : IsIdle (.completed rover)
  | failed (rover : Int) (failure : MissionFailure) : IsIdle (.failed rover failure)

variable {s : MissionState}

theorem holder?_eq_none (h : s.isActive = false) : s.holder? = none := by
  rw [holder?, h]
  rfl

theorem IsIdle.isActive_eq (h : s.IsIdle) : s.isActive = false := by
  cases h <;> rfl

theorem IsIdle.holder?_eq (h : s.IsIdle) : s.holder? = none := holder?_eq_none h.isActive_eq

theorem IsIdle.eq_pending (h : s.IsIdle) (hstatus : s.status = .pending) : s = .pending := by
  cases h with
  | pending => rfl
  | completed rover => cases hstatus
  | failed rover failure => cases hstatus

theorem IsIdle.finished_or (h : s.IsIdle) : s.isFinished = true ∨ s = .pending := by
  cases h with
  | pending => exact .inr rfl
  | completed rover => exact .inl rfl
  | failed rover failure => exact .inl rfl

theorem IsIdle.failed_iff (h : s.IsIdle) :
    s.status = .failed ↔ s.failure?.isSome = true := by
  cases h with
  | pending => exact ⟨nofun, nofun⟩
  | completed rover => exact ⟨nofun, nofun⟩
  | failed rover failure => exact ⟨fun _ => rfl, fun _ => rfl⟩

/-- Only a mission that has been assigned is confirmed. -/
theorem IsIdle.confirmed_eq (h : s.IsIdle) :
    (if s.status = .assigned then { s with status := .inProgress } else s) = s := by
  cases h <;> rfl

end MissionState

/-- How the states of a rover and of the mission that holds it go together. -/
inductive Engagement (rover mission : Int) : RoverState → MissionState → Prop where
  | receiving : Engagement rover mission (.receiving mission) (.assigned rover)
  | working : Engagement rover mission (.onMission mission) (.inProgress rover)

namespace Engagement

variable {rover mission : Int} {r : RoverState} {m : MissionState}

theorem mission?_eq (h : Engagement rover mission r m) : r.mission? = some mission := by
  cases h <;> rfl

theorem isEngaged (h : Engagement rover mission r m) : r.isEngaged = true := by
  cases h <;> rfl

theorem faultSince?_eq (h : Engagement rover mission r m) : r.faultSince? = none := by
  cases h <;> rfl

theorem rover?_eq (h : Engagement rover mission r m) : m.rover? = some rover := by
  cases h <;> rfl

theorem failure?_eq (h : Engagement rover mission r m) : m.failure? = none := by
  cases h <;> rfl

theorem isActive (h : Engagement rover mission r m) : m.isActive = true := by
  cases h <;> rfl

theorem isFinished_eq (h : Engagement rover mission r m) : m.isFinished = false := by
  cases h <;> rfl

theorem holder?_eq (h : Engagement rover mission r m) : m.holder? = some rover := by
  cases h <;> rfl

/-- The two statuses go together too. -/
theorem statuses (h : Engagement rover mission r m) :
    (r.status = .receiving ∧ m.status = .assigned) ∨
      (r.status = .onMission ∧ m.status = .inProgress) := by
  cases h with
  | receiving => exact .inl ⟨rfl, rfl⟩
  | working => exact .inr ⟨rfl, rfl⟩

/-- A mission that is held has one of two states. -/
theorem mission_eq (h : Engagement rover mission r m) :
    m = .assigned rover ∨ m = .inProgress rover := by
  cases h
  · exact .inl rfl
  · exact .inr rfl

/-! What is written into single fields leaves the others as they have to be. -/

theorem rover_working (h : Engagement rover mission r m) :
    { r with status := .onMission } = RoverState.onMission mission := by
  cases h <;> rfl

theorem rover_freed (h : Engagement rover mission r m) :
    { r with status := .available, mission? := none } = RoverState.available := by
  cases h <;> rfl

theorem mission_confirmed (h : Engagement rover mission r m) :
    (if m.status = .assigned then { m with status := .inProgress } else m) =
      MissionState.inProgress rover := by
  cases h <;> rfl

theorem mission_working (h : Engagement rover mission r m) :
    { m with status := .inProgress } = MissionState.inProgress rover := by
  cases h <;> rfl

theorem mission_reverted (h : Engagement rover mission r m) :
    { m with status := .pending, rover? := none } = MissionState.pending := by
  cases h <;> rfl

end Engagement

/-- A rover and a mission are tied to each other, or both are free. -/
def Matched (rover mission : Int) (r : RoverState) (m : MissionState) : Prop :=
  Engagement rover mission r m ∨ r.IsFree ∧ m.IsIdle

namespace Matched

variable {rover rover' mission mission' : Int} {r : RoverState} {m : MissionState}

/-- If the rover is held at all, it is by the mission. -/
theorem of_mission? (h : Matched rover mission r m) (hmission : r.mission? = some mission') :
    mission = mission' ∧ Engagement rover mission r m := by
  rcases h with hengaged | ⟨hfree, -⟩
  · rw [hengaged.mission?_eq] at hmission
    exact ⟨Option.some.inj hmission, hengaged⟩
  · rw [hfree.mission?_eq] at hmission
    cases hmission

/-- If the mission is held at all, it is by the rover. -/
theorem of_holder? (h : Matched rover mission r m) (hholder : m.holder? = some rover') :
    rover = rover' ∧ Engagement rover mission r m := by
  rcases h with hengaged | ⟨-, hidle⟩
  · rw [hengaged.holder?_eq] at hholder
    exact ⟨Option.some.inj hholder, hengaged⟩
  · rw [hidle.holder?_eq] at hholder
    cases hholder

end Matched

end RoverDispatch
