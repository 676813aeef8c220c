import RoverDispatch.Proofs.Fleet.Drafts
import RoverDispatch.Proofs.Fleet.Updates

/-!
# Assignments

A rover and the mission that holds it name each other.

An assignment is written down twice, in the record of the rover and in that of
the mission, and every operation of a fleet has to change both.
`Fleet.Consistent` says that every rover is free or part of an assignment, and
so is every mission. It follows that a mission is held by one rover at most,
and a rover by one mission.

Consistency is needed to know what an operation does at all. An update of a
mission that nobody holds changes nothing, but a finished mission still names
its last rover, and only consistency tells that the rover does not name the
mission any more. A rover that is available is given a new mission without a
look at its other fields, and only consistency tells that they are empty.

## Main definitions

* `Fleet.Operation`, `Fleet.perform`, `Fleet.performAll`: What can be done to a
  fleet.
* `Fleet.Consistent`: Everything is free or part of an assignment.
* `Fleet.Assigns`: What can come of assigning a mission to a rover.

## Theorems

* `Fleet.mem_roversIn_iff`, `Fleet.pairwise_roversIn`: Lists of rovers.
* `Fleet.Consistent.update_idle`: An update of a mission that nobody holds does
  nothing.
* `Fleet.Consistent.put`: Two records can change together.
* `Fleet.Consistent.perform`: Every operation keeps a fleet consistent.
* `Fleet.assignments_paired`: Assignments come in pairs, whatever is done.
-/

namespace RoverDispatch

namespace Fleet

/-! ### Operations -/

/-- What can be done to a fleet. -/
inductive Operation where
  | register (rover : Int) (endpoint : Option SocketAddress)
  | setEndpoint (rover : Int) (endpoint : SocketAddress)
  | submit (draft : Draft) (now : Int)
  | assign (rover mission : Int)
  | update (mission : Int) (u : Update)
  | releaseOrphan (rover : Int)
  | recoverFaulted (now cooldown : Nat)
  deriving DecidableEq

/-- The fleet after an operation, whether it is refused or not. -/
def perform (f : Fleet) : Operation → Fleet
  | .register rover endpoint => f.register rover endpoint
  | .setEndpoint rover endpoint => (f.setEndpoint rover endpoint).toOption.getD f
  | .submit draft now => ((f.submit draft now).toOption.map Prod.snd).getD f
  | .assign rover mission => (f.assign rover mission).2
  | .update mission u => (f.update mission u).toOption.getD f
  | .releaseOrphan rover => ((f.releaseOrphan rover).map Prod.snd).getD f
  | .recoverFaulted now cooldown => (f.recoverFaulted now cooldown).2

/-- The fleet after a number of operations. -/
def performAll (f : Fleet) (ops : List Operation) : Fleet := ops.foldl perform f

/-- The fleet after one more operation. -/
theorem performAll_concat (f : Fleet) (ops : List Operation) (op : Operation) :
    f.performAll (ops ++ [op]) = (f.performAll ops).perform op := by
  rw [performAll, List.foldl_append]
  rfl

/-! ### Rovers in some state -/

theorem mem_roversIn_iff {f : Fleet} {p : RoverState → Bool} {rover : Int} :
    rover ∈ f.roversIn p ↔ ∃ r, f.rovers.find? rover = some r ∧ p r.state = true := by
  simp [roversIn, Table.mem_entries_iff]

/-- Rovers are listed in the order of their numbers. -/
theorem pairwise_roversIn (f : Fleet) (p : RoverState → Bool) :
    (f.roversIn p).Pairwise (· < ·) :=
  f.rovers.pairwise_keys.sublist (List.filter_sublist.map _)

section Consistent

variable {f : Fleet} {rover mission : Int} {r r' : RoverRecord} {m m' : MissionRecord}

/-! ### Consistency -/

/-- Every rover is free or held by a mission, and every mission idle or held by
    a rover. Besides, missions are kept under their own numbers, which have all
    been given out, and one that waits bears no trace of an earlier
    assignment. -/
structure Consistent (f : Fleet) : Prop where
  rovers : ∀ {rover r}, f.rovers.find? rover = some r →
    r.state.IsFree ∨ ∃ mission m, f.Held rover r mission m
  missions : ∀ {mission m}, f.missions.find? mission = some m →
    m.state.IsIdle ∨ ∃ rover r, f.Held rover r mission m
  numbered : ∀ {mission m}, f.missions.find? mission = some m →
    m.mission.id = mission ∧ mission < f.nextMission
  waiting : ∀ {mission m}, f.missions.find? mission = some m → m.state = .pending →
    reverted m = m

/-- A fleet to begin with. -/
theorem consistent_empty : Consistent empty where
  rovers := fun h => absurd h nofun
  missions := fun h => absurd h nofun
  numbered := fun h => absurd h nofun
  waiting := fun h => absurd h nofun

/-- The mission that holds a rover. -/
theorem Consistent.engaged (h : f.Consistent) (hr : f.rovers.find? rover = some r)
    (hmission : r.state.mission? = some mission) : ∃ m, f.Held rover r mission m := by
  rcases h.rovers hr with hfree | ⟨mission', m, hheld⟩
  · rw [hfree.mission?_eq] at hmission
    cases hmission
  · rw [hheld.engaged.mission?_eq] at hmission
    cases hmission
    exact ⟨m, hheld⟩

/-- The rover that holds a mission. -/
theorem Consistent.exists_held (h : f.Consistent) (hm : f.missions.find? mission = some m)
    (hholder : m.state.holder? = some rover) : ∃ r, f.Held rover r mission m := by
  rcases h.missions hm with hidle | ⟨rover', r, hheld⟩
  · rw [hidle.holder?_eq] at hholder
    cases hholder
  · rw [hheld.engaged.holder?_eq] at hholder
    cases hholder
    exact ⟨r, hheld⟩

/-- A mission without a holder is idle. -/
theorem Consistent.isIdle (h : f.Consistent) (hm : f.missions.find? mission = some m)
    (hholder : m.state.holder? = none) : m.state.IsIdle := by
  refine (h.missions hm).resolve_right ?_
  rintro ⟨rover, r, hheld⟩
  rw [hheld.engaged.holder?_eq] at hholder
  cases hholder

/-- A rover that can be assigned a mission has no trace of an earlier one. -/
theorem Consistent.available_eq (h : f.Consistent) (hr : f.rovers.find? rover = some r)
    (hstatus : r.state.status = .available) : r.state = .available := by
  rcases h.rovers hr with hfree | ⟨mission, m, hheld⟩
  · exact hfree.eq_available hstatus
  · rcases hheld.engaged.statuses with ⟨hreceiving, -⟩ | ⟨hworking, -⟩
    · cases hstatus.symm.trans hreceiving
    · cases hstatus.symm.trans hworking

/-- A mission that waits has no trace of an earlier assignment. -/
theorem Consistent.pending_eq (h : f.Consistent) (hm : f.missions.find? mission = some m)
    (hstatus : m.state.status = .pending) : m.state = .pending := by
  rcases h.missions hm with hidle | ⟨rover, r, hheld⟩
  · exact hidle.eq_pending hstatus
  · rcases hheld.engaged.statuses with ⟨-, hassigned⟩ | ⟨-, hworking⟩
    · cases hstatus.symm.trans hassigned
    · cases hstatus.symm.trans hworking

/-- A mission that nobody holds changes no rover. -/
theorem Consistent.changeRover_idle (h : f.Consistent) (hm : f.missions.find? mission = some m)
    (hidle : m.state.IsIdle) (rover : Option Int) (change : RoverRecord → RoverRecord) :
    f.changeRover rover mission change = f := by
  cases rover with
  | none => rfl
  | some rover =>
      have hsame : f.rovers.modify rover
          (fun r => if r.state.mission? = some mission then change r else r) = f.rovers := by
        -- A rover that named the mission would be named by it.
        refine Table.modify_eq_self (fun r hr => if_neg (fun hmission => ?_))
        rcases h.engaged hr hmission with ⟨m', hheld⟩
        cases hm.symm.trans hheld.missionRecord
        have hactive := hheld.engaged.isActive
        rw [hidle.isActive_eq] at hactive
        cases hactive
      simp only [changeRover, hsame]

theorem setMission_eq_self (hm : f.missions.find? mission = some m) :
    f.setMission mission m = f := by
  rw [setMission, Table.insert_eq_self hm]

/-- An update of a mission that nobody holds changes nothing. -/
theorem Consistent.update_idle (h : f.Consistent) (hm : f.missions.find? mission = some m)
    (hidle : m.state.IsIdle) (u : Update) : f.update mission u = .ok f := by
  -- Three updates are one and the same to a mission that nobody holds.
  have hfinish (status : MissionStatus) (failure? : Option MissionFailure)
      (progress : Option Single) (change : RoverRecord → RoverRecord) :
      f.finish mission status failure? progress change = .ok f := by
    simp only [Fleet.finish, hm, hidle.isActive_eq, Bool.false_eq_true, if_false]
  cases u with
  | confirm =>
      simp only [update, Fleet.confirm, hm, hidle.confirmed_eq]
      rw [setMission_eq_self hm, h.changeRover_idle hm hidle]
  | recordProgress p =>
      simp only [update, Fleet.recordProgress, hm, hidle.isActive_eq, Bool.false_eq_true, if_false]
  | complete => exact hfinish _ _ _ _
  | fail e now => exact hfinish _ _ _ _
  | abandon reason => exact hfinish _ _ _ _
  | revert =>
      rcases hidle.finished_or with hfinished | hpending
      · simp only [update, Fleet.revert, hm, hfinished, if_true]
      · -- A pending mission is reverted to itself.
        have hsame : f.setMission mission (reverted m) = f := by
          rw [h.waiting hm hpending, setMission_eq_self hm]
        have hstate : { m.state with status := .pending, rover? := none } =
            MissionState.pending := by rw [hpending]; rfl
        simp only [reverted] at hsame
        simp only [update, Fleet.revert, hm, hstate, hsame]
        rw [hpending]
        rfl

/-! ### Operations keep a fleet consistent -/

/-- The record of a rover can change as long as its state stays, or the rover is
    free before and after. -/
theorem Consistent.setRover (h : f.Consistent)
    (hsame : (∃ r₀, f.rovers.find? rover = some r₀ ∧ r₀.state = r.state) ∨
      r.state.IsFree ∧ ∀ r₀, f.rovers.find? rover = some r₀ → r₀.state.IsFree) :
    { f with rovers := f.rovers.insert rover r }.Consistent where
  rovers := by
    intro rover' r' hr'
    rcases Table.of_find?_insert hr' with ⟨rfl, rfl⟩ | ⟨hrover, hr'⟩
    · -- The rover itself: held as before, or free.
      rcases hsame with ⟨r₀, hr₀, hstate⟩ | ⟨hfree, -⟩
      · rcases h.rovers hr₀ with hfree | ⟨mission, m, hheld⟩
        · exact .inl (hstate ▸ hfree)
        · exact .inr ⟨mission, m, hr', hheld.missionRecord, hstate ▸ hheld.engaged⟩
      · exact .inl hfree
    · refine (h.rovers hr').imp_right ?_
      rintro ⟨mission, m, hheld⟩
      exact ⟨mission, m, hheld.congr (Table.find?_insert_of_ne _ hrover _) rfl⟩
  missions := by
    intro mission m hm
    refine (h.missions hm).imp_right ?_
    rintro ⟨rover', r', hheld⟩
    by_cases hrover : rover' = rover
    · -- The mission is held by this rover, so it stays held or was not held at all.
      subst hrover
      rcases hsame with ⟨r₀, hr₀, hstate⟩ | ⟨-, hfree⟩
      · cases hheld.roverRecord.symm.trans hr₀
        exact ⟨rover', r, Table.find?_insert_self _ _ _, hm, hstate ▸ hheld.engaged⟩
      · have hnone := (hfree r' hheld.roverRecord).mission?_eq
        rw [hheld.engaged.mission?_eq] at hnone
        cases hnone
    · exact ⟨rover', r', hheld.congr (Table.find?_insert_of_ne _ hrover _) rfl⟩
  numbered := h.numbered
  waiting := h.waiting

/-- A rover and a mission that are tied to each other or both free can change
    together if they are so afterwards. -/
theorem Consistent.put (h : f.Consistent) (hr : f.rovers.find? rover = some r)
    (hm : f.missions.find? mission = some m) (before : Matched rover mission r.state m.state)
    (after : Matched rover mission r'.state m'.state) (payload : m'.mission = m.mission)
    (waiting : m'.state = .pending → reverted m' = m') :
    (f.put rover r' mission m').Consistent where
  rovers := by
    intro rover' r'' hr''
    rcases Table.of_find?_insert hr'' with ⟨rfl, rfl⟩ | ⟨hrover, hr''⟩
    · rcases after with hengaged | ⟨hfree, -⟩
      · exact .inr ⟨mission, m', .put hengaged⟩
      · exact .inl hfree
    · refine (h.rovers hr'').imp_right ?_
      rintro ⟨mission', m'', hheld⟩
      -- The mission of another rover is another mission.
      have hother : mission' ≠ mission := by
        rintro rfl
        cases hm.symm.trans hheld.missionRecord
        exact hrover (before.of_holder? hheld.engaged.holder?_eq).1.symm
      exact ⟨mission', m'',
        hheld.congr (find?_put_rover_of_ne hrover) (find?_put_mission_of_ne hother)⟩
  missions := by
    intro mission' m'' hm''
    rcases Table.of_find?_insert hm'' with ⟨rfl, rfl⟩ | ⟨hmission, hm''⟩
    · rcases after with hengaged | ⟨-, hidle⟩
      · exact .inr ⟨rover, r', .put hengaged⟩
      · exact .inl hidle
    · refine (h.missions hm'').imp_right ?_
      rintro ⟨rover', r'', hheld⟩
      -- The rover of another mission is another rover.
      have hother : rover' ≠ rover := by
        rintro rfl
        cases hr.symm.trans hheld.roverRecord
        exact hmission (before.of_mission? hheld.engaged.mission?_eq).1.symm
      exact ⟨rover', r'',
        hheld.congr (find?_put_rover_of_ne hother) (find?_put_mission_of_ne hmission)⟩
  numbered := by
    intro mission' m'' hm''
    rcases Table.of_find?_insert hm'' with ⟨rfl, rfl⟩ | ⟨-, hm''⟩
    · rw [payload]
      exact h.numbered hm
    · exact h.numbered hm''
  waiting := by
    intro mission' m'' hm'' hpending
    rcases Table.of_find?_insert hm'' with ⟨rfl, rfl⟩ | ⟨-, hm''⟩
    · exact waiting hpending
    · exact h.waiting hm'' hpending

/-- An update leaves the rover and the mission tied, or frees both. -/
theorem Update.matched (u : Update) (rover mission : Int) (r : RoverRecord) (m : MissionRecord) :
    Matched rover mission (u.rover mission r).state (u.mission rover m).state := by
  cases u with
  | confirm => exact .inl .working
  | recordProgress p => exact .inl .working
  | complete => exact .inr ⟨.available, .completed _⟩
  | fail e now => exact .inr ⟨.fault _, .failed _ _⟩
  | abandon reason => exact .inr ⟨.available, .failed _ _⟩
  | revert => exact .inr ⟨.available, .pending⟩

theorem Consistent.put_update (h : f.Consistent) (hheld : f.Held rover r mission m) (u : Update) :
    (f.put rover (u.rover mission r) mission (u.mission rover m)).Consistent := by
  refine h.put hheld.roverRecord hheld.missionRecord (.inl hheld.engaged)
    (u.matched rover mission r m) (u.payload_mission rover m) ?_
  intro hpending
  cases u with
  | revert => rfl
  | _ => cases hpending

theorem Consistent.update (h : f.Consistent) {f' : Fleet} {u : Update}
    (hu : f.update mission u = .ok f') : f'.Consistent := by
  cases hm : f.missions.find? mission with
  -- What is not known cannot be updated. What is known is idle, and nothing happens, or held, and
  -- its pair is replaced.
  | none =>
      rw [update_unknown hm] at hu
      cases hu
  | some m =>
      rcases h.missions hm with hidle | ⟨rover, r, hheld⟩
      · rw [h.update_idle hm hidle] at hu
        cases hu
        exact h
      · rw [hheld.update] at hu
        cases hu
        exact h.put_update hheld u

theorem Consistent.register (h : f.Consistent) (rover : Int) (endpoint : Option SocketAddress) :
    (f.register rover endpoint).Consistent := by
  rw [Fleet.register]
  split
  · rename_i hr
    refine h.setRover (.inr ⟨.available, fun r₀ hr₀ => ?_⟩)
    rw [hr] at hr₀
    cases hr₀
  · rename_i r hr
    exact h.setRover (.inl ⟨r, hr, rfl⟩)

theorem Consistent.setEndpoint (h : f.Consistent) {endpoint : SocketAddress} {f' : Fleet}
    (hset : f.setEndpoint rover endpoint = .ok f') : f'.Consistent := by
  rw [Fleet.setEndpoint] at hset
  split at hset
  · cases hset
  · rename_i r hr
    cases hset
    exact h.setRover (.inl ⟨r, hr, rfl⟩)

/-- A new mission gets a number that no mission has had. -/
theorem Consistent.submit (h : f.Consistent) {draft : Draft} {now id : Int} {f' : Fleet}
    (hsubmit : f.submit draft now = .ok (id, f')) : f'.Consistent := by
  rw [Fleet.submit_eq] at hsubmit
  split at hsubmit
  · cases hsubmit
  · rename_i payload hpayload
    cases hsubmit
    have hid : payload.id = f.nextMission := by
      rw [Draft.toMission] at hpayload
      split at hpayload
      · cases hpayload
      · cases hpayload
        rfl
    -- All missions have lower numbers, so no record is written over.
    have hfresh : ∀ {mission m}, f.missions.find? mission = some m → mission ≠ f.nextMission :=
      fun hm => Int.ne_of_lt (h.numbered hm).2
    refine ⟨?_, ?_, ?_, ?_⟩
    · intro rover r hr
      refine (h.rovers hr).imp_right ?_
      rintro ⟨mission, m, hheld⟩
      exact ⟨mission, m,
        hheld.congr rfl (Table.find?_insert_of_ne _ (hfresh hheld.missionRecord) _)⟩
    · intro mission m hm
      rcases Table.of_find?_insert hm with ⟨-, rfl⟩ | ⟨hmission, hm⟩
      · exact .inl .pending
      · refine (h.missions hm).imp_right ?_
        rintro ⟨rover, r, hheld⟩
        exact ⟨rover, r, hheld.congr rfl (Table.find?_insert_of_ne _ hmission _)⟩
    · intro mission m hm
      rcases Table.of_find?_insert hm with ⟨rfl, rfl⟩ | ⟨-, hm⟩
      · exact ⟨hid, Int.lt_succ _⟩
      · exact ⟨(h.numbered hm).1, Int.lt_trans (h.numbered hm).2 (Int.lt_succ _)⟩
    · intro mission m hm hpending
      rcases Table.of_find?_insert hm with ⟨-, rfl⟩ | ⟨-, hm⟩
      · rfl
      · exact h.waiting hm hpending

/-- What can come of assigning a mission to a rover. -/
inductive Assigns (f : Fleet) (rover mission : Int) :
    Except FleetError Mission × Fleet → Prop where
  /-- It is refused before anything is changed. -/
  | refused (e : FleetError) : Assigns f rover mission (.error e, f)
  /-- The mission cannot be had, and the rover is free again. -/
  | released (e : FleetError) {r : RoverRecord} (roverRecord : f.rovers.find? rover = some r)
      (available : r.state.status = .available) :
      Assigns f rover mission (.error e, { f with
        rovers := f.rovers.insert rover
          { reserved r mission with state.status := .available, state.mission? := none } })
  /-- Rover and mission are tied. -/
  | tied {r : RoverRecord} {m : MissionRecord} (roverRecord : f.rovers.find? rover = some r)
      (available : r.state.status = .available)
      (missionRecord : f.missions.find? mission = some m)
      (pending : m.state.status = .pending) :
      Assigns f rover mission
        (.ok m.mission, f.put rover (reserved r mission) mission (assigned m rover))

theorem assigns (f : Fleet) (rover mission : Int) :
    Assigns f rover mission (f.assign rover mission) := by
  rw [assign]
  split
  · exact .refused _
  · rename_i r hr
    split
    · exact .refused _
    · -- From here on the rover is reserved, and released again if the mission cannot be had.
      rename_i havailable
      have havailable := Decidable.not_not.1 havailable
      split
      · exact .released _ hr havailable
      · rename_i m hm
        split
        · exact .released _ hr havailable
        · rename_i hpending
          exact .tied hr havailable hm (Decidable.not_not.1 hpending)

/-- A rover that a mission has been reserved for, if it could be assigned one. -/
theorem Consistent.reserved_eq (h : f.Consistent) (hr : f.rovers.find? rover = some r)
    (available : r.state.status = .available) (mission : Int) :
    (reserved r mission).state = .receiving mission := by
  simp only [reserved, h.available_eq hr available]
  rfl

theorem Consistent.assign (h : f.Consistent) {result : Except FleetError Mission × Fleet}
    (hassign : Assigns f rover mission result) : result.2.Consistent := by
  cases hassign with
  | refused e => exact h
  -- The rover comes back free, though not as it was.
  | @released e r roverRecord available =>
      have hfree := h.available_eq roverRecord available
      refine h.setRover (.inr ⟨?_, fun r₀ hr₀ => ?_⟩)
      · simp only [h.reserved_eq roverRecord available]
        exact .available
      · cases roverRecord.symm.trans hr₀
        rw [hfree]
        exact .available
  | tied roverRecord available missionRecord pending =>
      refine h.put roverRecord missionRecord (.inr ?_) (.inl ?_) rfl nofun
      · rw [h.available_eq roverRecord available, h.pending_eq missionRecord pending]
        exact ⟨.available, .pending⟩
      · rw [h.reserved_eq roverRecord available]
        exact .receiving

theorem Consistent.releaseOrphan (h : f.Consistent) {release : Release} {f' : Fleet}
    (hrelease : f.releaseOrphan rover = some (release, f')) : f'.Consistent := by
  cases hr : f.rovers.find? rover with
  | none =>
      simp only [Fleet.releaseOrphan, hr] at hrelease
      cases hrelease
  | some r =>
      rcases h.rovers hr with hfree | ⟨mission, m, hheld⟩
      · simp only [Fleet.releaseOrphan, hr, hfree.isEngaged_eq, Bool.false_eq_true, if_false]
          at hrelease
        cases hrelease
      · rw [hheld.releaseOrphan] at hrelease
        cases hrelease
        -- Both ways of withdrawing a mission are updates.
        rw [← rover_withdrawal (decide (0 < m.reports)) "session lost after progress" mission]
        exact h.put_update hheld _

/-- What becomes of a rover when those that have been out of order for long
    enough recover. -/
def recovered (now cooldown : Nat) (r : RoverRecord) : RoverRecord :=
  if r.state.status = .fault ∧ cooldown ≤ now - r.state.faultSince?.getD 0 then
    { r with state.status := .available, state.faultSince? := none }
  else r

theorem find?_recoverFaulted (f : Fleet) (now cooldown : Nat) (rover : Int) :
    (f.recoverFaulted now cooldown).2.rovers.find? rover =
      (f.rovers.find? rover).map (recovered now cooldown) := by
  simp only [recoverFaulted, Table.find?_mapValues, decide_eq_true_eq]
  rfl

/-- A rover that a mission holds does not recover. -/
theorem Held.recovered_eq (h : f.Held rover r mission m) (now cooldown : Nat) :
    recovered now cooldown r = r := by
  refine if_neg (fun hrecovers => ?_)
  rcases h.engaged.statuses with ⟨hreceiving, -⟩ | ⟨hworking, -⟩
  · cases hreceiving.symm.trans hrecovers.1
  · cases hworking.symm.trans hrecovers.1

/-- A rover that is free stays so. -/
theorem isFree_recovered (hfree : r.state.IsFree) (now cooldown : Nat) :
    (recovered now cooldown r).state.IsFree := by
  rw [recovered]
  split
  · rename_i hrecovers
    rcases r with ⟨endpoint, state, progress, battery, x, y⟩
    cases hfree with
    | available => cases hrecovers.1
    | fault since => exact .available
  · exact hfree

theorem Consistent.recoverFaulted (h : f.Consistent) (now cooldown : Nat) :
    (f.recoverFaulted now cooldown).2.Consistent := by
  -- A rover that is held is not out of order, so nothing happens to it.
  have hheld : ∀ {rover r mission m}, f.Held rover r mission m →
      (f.recoverFaulted now cooldown).2.Held rover r mission m := by
    intro rover r mission m hheld
    refine hheld.congr ?_ rfl
    rw [find?_recoverFaulted, hheld.roverRecord, Option.map_some, hheld.recovered_eq]
  refine ⟨?_, ?_, h.numbered, h.waiting⟩
  · intro rover r hr
    rw [find?_recoverFaulted] at hr
    rcases Option.map_eq_some_iff.1 hr with ⟨r₀, hr₀, rfl⟩
    rcases h.rovers hr₀ with hfree | ⟨mission, m, hheld₀⟩
    · exact .inl (isFree_recovered hfree now cooldown)
    · rw [hheld₀.recovered_eq]
      exact .inr ⟨mission, m, hheld hheld₀⟩
  · intro mission m hm
    refine (h.missions hm).imp_right ?_
    rintro ⟨rover, r, hheld₀⟩
    exact ⟨rover, r, hheld hheld₀⟩

/-- Every operation keeps a fleet consistent. -/
theorem Consistent.perform (h : f.Consistent) (op : Operation) : (f.perform op).Consistent := by
  cases op with
  | register rover endpoint => exact h.register rover endpoint
  | setEndpoint rover endpoint =>
      rw [Fleet.perform]
      cases hset : f.setEndpoint rover endpoint with
      | error e => exact h
      | ok f' => exact h.setEndpoint hset
  | submit draft now =>
      rw [Fleet.perform]
      cases hsubmit : f.submit draft now with
      | error e => exact h
      | ok result => exact h.submit hsubmit
  | assign rover mission => exact h.assign (f.assigns rover mission)
  | update mission u =>
      rw [Fleet.perform]
      cases hu : f.update mission u with
      | error e => exact h
      | ok f' => exact h.update hu
  | releaseOrphan rover =>
      rw [Fleet.perform]
      cases hrelease : f.releaseOrphan rover with
      | none => exact h
      | some result => exact h.releaseOrphan hrelease
  | recoverFaulted now cooldown => exact h.recoverFaulted now cooldown

theorem Consistent.performAll (h : f.Consistent) (ops : List Operation) :
    (f.performAll ops).Consistent := by
  induction ops generalizing f with
  | nil => exact h
  | cons op ops ih => exact ih (h.perform op)

/-! ### Assignments come in pairs -/

/-- A rover is engaged exactly when a mission that it names is active and
    names it back. -/
theorem Consistent.isEngaged_iff (h : f.Consistent) (hr : f.rovers.find? rover = some r) :
    r.state.isEngaged = true ↔ ∃ mission m, r.state.mission? = some mission ∧
      f.missions.find? mission = some m ∧ m.state.isActive = true ∧
        m.state.rover? = some rover := by
  constructor
  · -- An engaged rover is not free, so some mission holds it.
    intro hengaged
    rcases h.rovers hr with hfree | ⟨mission, m, hheld⟩
    · rw [hfree.isEngaged_eq] at hengaged
      cases hengaged
    · exact ⟨mission, m, hheld.engaged.mission?_eq, hheld.missionRecord, hheld.engaged.isActive,
        hheld.engaged.rover?_eq⟩
  · rintro ⟨mission, m, hmission, -⟩
    rcases h.engaged hr hmission with ⟨m', hheld⟩
    exact hheld.engaged.isEngaged

/-- An active mission is held by the rover that it names, and by no other. -/
theorem Consistent.exists_unique_holder (h : f.Consistent)
    (hm : f.missions.find? mission = some m) (hactive : m.state.isActive = true) :
    ∃ rover, m.state.rover? = some rover ∧
      ∀ rover', (∃ r, f.rovers.find? rover' = some r ∧ r.state.mission? = some mission) ↔
        rover' = rover := by
  rcases h.missions hm with hidle | ⟨rover, r, hheld⟩
  · rw [hidle.isActive_eq] at hactive
    cases hactive
  · -- Any rover that names the mission is named by it, and it names only one.
    refine ⟨rover, hheld.engaged.rover?_eq, fun rover' => ⟨?_, ?_⟩⟩
    · rintro ⟨r', hr', hmission⟩
      rcases h.engaged hr' hmission with ⟨m', hheld'⟩
      cases hm.symm.trans hheld'.missionRecord
      exact Option.some.inj (hheld'.engaged.rover?_eq.symm.trans hheld.engaged.rover?_eq)
    · rintro rfl
      exact ⟨r, hheld.roverRecord, hheld.engaged.mission?_eq⟩

/-- What the record of a rover says agrees with its status. -/
theorem Consistent.rover_agrees (h : f.Consistent) (hr : f.rovers.find? rover = some r) :
    (r.state.status = .available ∨ r.state.status = .fault → r.state.mission? = none) ∧
      (r.state.status = .fault ↔ r.state.faultSince?.isSome = true) := by
  rcases h.rovers hr with hfree | ⟨mission, m, hheld⟩
  · exact ⟨fun _ => hfree.mission?_eq, hfree.fault_iff⟩
  · rw [hheld.engaged.faultSince?_eq]
    rcases hheld.engaged.statuses with ⟨hstatus, -⟩ | ⟨hstatus, -⟩ <;>
      simp only [hstatus, reduceCtorEq, or_self, false_implies, Option.isSome_none,
        Bool.false_eq_true, and_self]

/-- What the record of a mission says agrees with its status. -/
theorem Consistent.mission_agrees (h : f.Consistent) (hm : f.missions.find? mission = some m) :
    (m.state.status = .pending → m.state.rover? = none) ∧
      (m.state.status = .failed ↔ m.state.failure?.isSome = true) := by
  rcases h.missions hm with hidle | ⟨rover, r, hheld⟩
  · exact ⟨fun hpending => congrArg MissionState.rover? (hidle.eq_pending hpending),
      hidle.failed_iff⟩
  · rw [hheld.engaged.failure?_eq]
    rcases hheld.engaged.statuses with ⟨-, hstatus⟩ | ⟨-, hstatus⟩ <;>
      simp only [hstatus, reduceCtorEq, false_implies, Option.isSome_none, Bool.false_eq_true,
        and_self]

end Consistent

/-- Whatever has been done to a fleet, and with whatever success, its
    assignments come in pairs. A rover is engaged exactly when it names an
    active mission that names it back, and every active mission is held by
    exactly one rover, the one that it names. A rover that receives its mission
    goes with one that is assigned, and a rover that works on it with one that
    is in progress. Rovers that are available or out of order name no mission,
    and missions that are pending name no rover. Exactly the rovers that are
    out of order have been so since some time, and exactly the missions that
    have failed have a description of it. -/
theorem assignments_paired (ops : List Operation) :
    let f := empty.performAll ops
    (∀ rover r, f.rovers.find? rover = some r →
      (r.state.isEngaged = true ↔ ∃ mission m, r.state.mission? = some mission ∧
        f.missions.find? mission = some m ∧ m.state.isActive = true ∧
          m.state.rover? = some rover) ∧
      (r.state.status = .available ∨ r.state.status = .fault → r.state.mission? = none) ∧
      (r.state.status = .fault ↔ r.state.faultSince?.isSome = true)) ∧
    (∀ mission m, f.missions.find? mission = some m →
      (m.state.isActive = true → ∃ rover, m.state.rover? = some rover ∧
        ∀ rover', (∃ r, f.rovers.find? rover' = some r ∧ r.state.mission? = some mission) ↔
          rover' = rover) ∧
      (m.state.status = .pending → m.state.rover? = none) ∧
      (m.state.status = .failed ↔ m.state.failure?.isSome = true)) ∧
    ∀ rover r mission m, f.rovers.find? rover = some r → f.missions.find? mission = some m →
      r.state.mission? = some mission →
        (r.state.status = .receiving ∧ m.state.status = .assigned) ∨
          (r.state.status = .onMission ∧ m.state.status = .inProgress) := by
  intro f
  have h : f.Consistent := consistent_empty.performAll ops
  refine ⟨fun rover r hr => ⟨h.isEngaged_iff hr, h.rover_agrees hr⟩,
    fun mission m hm => ⟨h.exists_unique_holder hm, h.mission_agrees hm⟩, ?_⟩
  intro rover r mission m hr hm hmission
  rcases h.engaged hr hmission with ⟨m', hheld⟩
  cases hm.symm.trans hheld.missionRecord
  exact hheld.engaged.statuses

end Fleet

end RoverDispatch
