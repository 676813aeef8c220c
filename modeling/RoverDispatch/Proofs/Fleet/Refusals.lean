import RoverDispatch.Proofs.Fleet.Assignments

/-!
# Refusals

What is left of an assignment that is refused.

A rover is reserved before anybody has looked at the mission, so an assignment
can be refused when the record of the rover has been written already. Then the
rover is set free by hand: its status and its mission are written once more.
The progress is not, although the reservation has set it back to nothing. So a
refusal is free of effects exactly if there was nothing to set back.

Most of the time there is not. A rover is available because it is new, or
because a mission has let go of it, and both leave it without progress. The
exception is a rover that was out of order. It keeps the progress of the
mission that failed, and it still has it when it becomes available again.

## Main definitions

* `Fleet.wiped`: A rover after a mission has been refused to it.
* `Fleet.Blank`: No rover that can be assigned a mission shows progress.

## Theorems

* `Fleet.Consistent.assign_refused`: What a refused assignment does to the fleet.
* `Fleet.Consistent.perform_update`, `Fleet.Consistent.perform_releaseOrphan`:
  These operations do nothing, or they change what is held.
* `Fleet.Blank.perform`: Only recovery brings progress to available rovers.
* `Fleet.refused_assign`: A refused assignment costs an available rover its
  progress, and does nothing else.
-/

namespace RoverDispatch

namespace Fleet

variable {f f' : Fleet} {rover mission : Int} {r : RoverRecord} {e : FleetError}

/-! ### What a refusal does -/

/-- A rover after a mission has been refused to it. -/
def wiped (r : RoverRecord) : RoverRecord :=
  if r.state.status = .available then { r with progress := .zero } else r

theorem wiped_eq_self_iff :
    wiped r = r ↔ (r.state.status = .available → r.progress = .zero) := by
  by_cases havailable : r.state.status = .available
  · rw [wiped, if_pos havailable]
    refine ⟨fun hsame _ => (congrArg RoverRecord.progress hsame).symm, fun hzero => ?_⟩
    rw [← hzero havailable]
  · simp [wiped, havailable]

/-- A rover that was available is wiped by being reserved and set free again. -/
theorem Consistent.freed_reserved (h : f.Consistent) (hr : f.rovers.find? rover = some r)
    (available : r.state.status = .available) (mission : Int) :
    { reserved r mission with state.status := .available, state.mission? := none } = wiped r := by
  have hstate := h.available_eq hr available
  rcases r with ⟨endpoint, state, progress, battery, x, y⟩
  cases hstate
  rfl

/-- The rover of a refused assignment is wiped, and nothing else changes. -/
theorem Consistent.assign_refused (h : f.Consistent)
    (hrefused : f.assign rover mission = (.error e, f')) :
    f' = { f with rovers := f.rovers.modify rover wiped } := by
  rw [Fleet.assign] at hrefused
  cases hr : f.rovers.find? rover with
  | none =>
      simp only [hr, Prod.mk.injEq] at hrefused
      have hsame : f.rovers.modify rover wiped = f.rovers :=
        Table.modify_eq_self (fun v hv => by simp [hr] at hv)
      rw [hsame, ← hrefused.2]
  | some r =>
      by_cases available : r.state.status = .available
      · -- Whatever is wrong with the mission, the rover is freed by hand.
        have hfreed : f.rovers.modify rover wiped = f.rovers.insert rover
            { reserved r mission with state.status := .available, state.mission? := none } := by
          rw [Table.modify_eq_insert hr, h.freed_reserved hr available mission]
        simp only [hr, available, ne_eq, not_true, if_false] at hrefused
        rw [hfreed]
        split at hrefused
        · exact (Prod.mk.inj hrefused).2.symm
        · split at hrefused
          · exact (Prod.mk.inj hrefused).2.symm
          · cases hrefused
      · have hsame : f.rovers.modify rover wiped = f.rovers := by
          refine Table.modify_eq_self (fun v hv => if_neg ?_)
          cases hr.symm.trans hv
          exact available
        simp only [hr, available, ne_eq, not_false_eq_true, if_true, Prod.mk.injEq] at hrefused
        rw [hsame, ← hrefused.2]

/-- A refused assignment leaves the fleet alone exactly if the rover had no
    progress to lose. -/
theorem modify_wiped_eq_self_iff (f : Fleet) (rover : Int) :
    { f with rovers := f.rovers.modify rover wiped } = f ↔
      ∀ r, f.rovers.find? rover = some r → r.state.status = .available → r.progress = .zero := by
  constructor
  · intro hsame r hr
    have hfind := congrArg (fun f => f.rovers.find? rover) hsame
    simp only [Table.find?_modify, if_true, hr, Option.map_some, Option.some.injEq] at hfind
    exact wiped_eq_self_iff.1 hfind
  · intro hzero
    rw [Table.modify_eq_self (fun r hr => wiped_eq_self_iff.2 (hzero r hr))]

/-! ### Progress of rovers that can be assigned a mission -/

/-- No rover that can be assigned a mission shows progress. -/
def Blank (f : Fleet) : Prop :=
  ∀ rover r, f.rovers.find? rover = some r → r.state.status = .available → r.progress = .zero

theorem blank_empty : Blank empty := fun _ _ hr => absurd hr nofun

/-- A rover is written down without progress, or it cannot be assigned a
    mission. -/
theorem Blank.insert (h : f.Blank) (hr : r.state.status = .available → r.progress = .zero) :
    Blank { f with rovers := f.rovers.insert rover r } := by
  intro rover' r' hr'
  rcases Table.of_find?_insert hr' with ⟨-, rfl⟩ | ⟨-, hr'⟩
  · exact hr
  · exact h rover' r' hr'

/-- A report on a mission frees its rover without progress, if at all. -/
theorem Update.blank (u : Update) (mission : Int) (r : RoverRecord)
    (available : (u.rover mission r).state.status = .available) :
    (u.rover mission r).progress = .zero := by
  cases u with
  | complete => rfl
  | abandon reason => rfl
  | revert => rfl
  | _ => cases available

theorem Blank.assign (h : f.Blank) {result : Except FleetError Mission × Fleet}
    (hassign : Assigns f rover mission result) : result.2.Blank := by
  cases hassign with
  | refused e => exact h
  | released e roverRecord available => exact h.insert (fun _ => rfl)
  | tied roverRecord available missionRecord pending => exact h.insert nofun

/-- A report on a mission that is held. -/
theorem Held.perform_update {m : MissionRecord} (h : f.Held rover r mission m) (u : Update) :
    f.perform (.update mission u) =
      f.put rover (u.rover mission r) mission (u.mission rover m) := by
  rw [perform, h.update]
  rfl

/-- A report does nothing, or it is about a mission that is held. -/
theorem Consistent.perform_update (h : f.Consistent) (mission : Int) (u : Update) :
    f.perform (.update mission u) = f ∨ ∃ rover r m, f.Held rover r mission m ∧
      f.perform (.update mission u) = f.put rover (u.rover mission r) mission
        (u.mission rover m) := by
  cases hm : f.missions.find? mission with
  | none =>
      rw [Fleet.perform, update_unknown hm]
      exact .inl rfl
  | some m =>
      rcases h.missions hm with hidle | ⟨rover, r, hheld⟩
      · rw [Fleet.perform, h.update_idle hm hidle]
        exact .inl rfl
      · exact .inr ⟨rover, r, m, hheld, hheld.perform_update u⟩

/-- Releasing a rover does nothing, or it withdraws the mission that holds
    it. -/
theorem Consistent.perform_releaseOrphan (h : f.Consistent) (rover : Int) :
    f.perform (.releaseOrphan rover) = f ∨ ∃ r mission m, f.Held rover r mission m ∧
      f.perform (.releaseOrphan rover) = f.put rover (released r) mission
        ((withdrawal (decide (0 < m.reports)) "session lost after progress").mission rover m) := by
  rw [Fleet.perform]
  cases hr : f.rovers.find? rover with
  | none =>
      simp only [Fleet.releaseOrphan, hr]
      exact .inl rfl
  | some r =>
      rcases h.rovers hr with hfree | ⟨mission, m, hheld⟩
      · simp only [Fleet.releaseOrphan, hr, hfree.isEngaged_eq, Bool.false_eq_true, if_false]
        exact .inl rfl
      · -- It is engaged, so a mission holds it.
        rw [hheld.releaseOrphan]
        exact .inr ⟨r, mission, m, hheld, rfl⟩

/-- Every operation but recovery leaves available rovers without progress. -/
theorem Blank.perform (h : f.Blank) (hf : f.Consistent) {op : Operation}
    (hop : ∀ now cooldown, op ≠ .recoverFaulted now cooldown) : (f.perform op).Blank := by
  cases op with
  -- A record is written that is new, or has the progress of one that was there.
  | register rover endpoint =>
      rw [Fleet.perform, Fleet.register]
      split
      · exact h.insert (fun _ => rfl)
      · rename_i r hr
        exact h.insert (h rover r hr)
  | setEndpoint rover endpoint =>
      rw [Fleet.perform, Fleet.setEndpoint]
      split
      · exact h
      · rename_i r hr
        exact h.insert (h rover r hr)
  | submit draft now =>
      rw [Fleet.perform, Fleet.submit_eq]
      split <;> exact h
  | assign rover mission => exact h.assign (f.assigns rover mission)
  | update mission u =>
      rcases hf.perform_update mission u with hsame | ⟨rover, r, m, hheld, hput⟩
      · rwa [hsame]
      · rw [hput]
        exact h.insert (u.blank mission r)
  | releaseOrphan rover =>
      rcases hf.perform_releaseOrphan rover with hsame | ⟨r, mission, m, hheld, hput⟩
      · rwa [hsame]
      · rw [hput]
        exact h.insert (fun _ => rfl)
  | recoverFaulted now cooldown => exact absurd rfl (hop now cooldown)

theorem Blank.performAll (h : f.Blank) (hf : f.Consistent) {ops : List Operation}
    (hops : ∀ op ∈ ops, ∀ now cooldown, op ≠ .recoverFaulted now cooldown) :
    (f.performAll ops).Blank := by
  induction ops generalizing f with
  | nil => exact h
  | cons op ops ih =>
      rcases List.forall_mem_cons.1 hops with ⟨hop, hops⟩
      exact ih (h.perform hf hop) (hf.perform op) hops

/-! ### Refused assignments -/

/-- Whatever has been done to a fleet, an assignment that is refused leaves the
    missions alone, and all rovers but the one that was asked for. That one
    keeps its record too unless it was available, and then it loses its progress
    and nothing else. So everything is as before exactly if the rover had no
    progress while it was available. This holds as long as no rover has been
    set to work again after it was out of order. -/
theorem refused_assign (ops : List Operation) (rover mission : Int) {e : FleetError} {f' : Fleet}
    (hrefused : (empty.performAll ops).assign rover mission = (.error e, f')) :
    let f := empty.performAll ops
    f'.missions = f.missions ∧ f'.nextMission = f.nextMission ∧
    (∀ rover', rover' ≠ rover → f'.rovers.find? rover' = f.rovers.find? rover') ∧
    (∀ r, f.rovers.find? rover = some r → f'.rovers.find? rover = some
      (if r.state.status = .available then { r with progress := .zero } else r)) ∧
    (f' = f ↔ ∀ r, f.rovers.find? rover = some r → r.state.status = .available →
      r.progress = .zero) ∧
    ((∀ op ∈ ops, ∀ now cooldown, op ≠ .recoverFaulted now cooldown) → f' = f) := by
  intro f
  have h : f.Consistent := consistent_empty.performAll ops
  -- All that is left of the attempt is a rover without its progress.
  rcases h.assign_refused hrefused with rfl
  have hself := modify_wiped_eq_self_iff f rover
  refine ⟨rfl, rfl, fun rover' hrover' => ?_, fun r hr => ?_, hself, fun hops => ?_⟩
  · rw [Table.find?_modify, if_neg hrover']
  · rw [Table.find?_modify, if_pos rfl, hr, Option.map_some, wiped]
  · exact hself.2 (blank_empty.performAll consistent_empty hops rover)

/-- The mission has been given to another rover. -/
theorem refused_assign_taken :
    let draft : Draft := ⟨.zero, .zero, .zero, .zero, "scan", 60, 30, none, 1⟩
    let f := empty.performAll [.register 1 none, .register 2 none, .submit draft 0, .assign 1 1]
    (f.assign 2 1).1 = .error (.notAssignable 2 1 .missionNotPending) ∧ (f.assign 2 1).2 = f := by
  intro draft f
  have hrefused : f.assign 2 1 =
      (.error (.notAssignable 2 1 .missionNotPending), (f.assign 2 1).2) := by decide +kernel
  refine ⟨congrArg Prod.fst hrefused, ?_⟩
  rcases refused_assign _ 2 1 hrefused with ⟨-, -, -, -, -, hsame⟩
  exact hsame (by simp)

/-- A rover breaks down two percent into its mission and is available again
    after a while. Then it is to be given a mission that does not exist. -/
theorem refused_assign_after_recovery :
    let draft : Draft := ⟨.zero, .zero, .zero, .zero, "scan", 60, 30, none, 1⟩
    let e : ErrorReport := ⟨1, .batteryLow, "low", .two, .two, .zero, .zero, 0⟩
    let f := empty.performAll [.register 1 none, .submit draft 0, .assign 1 1, .update 1 (.fail e 0),
      .recoverFaulted 5 5]
    ∃ f', f.assign 1 9 = (.error (.unknownMission 9), f') ∧ f' ≠ f ∧
      (f.rovers.find? 1).map RoverRecord.progress = some .two ∧
      (f'.rovers.find? 1).map RoverRecord.progress = some .zero := by
  intro draft e f
  exact ⟨(f.assign 1 9).2, by decide +kernel⟩

end Fleet

end RoverDispatch
