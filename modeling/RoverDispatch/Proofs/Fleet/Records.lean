import RoverDispatch.Proofs.Fleet.Refusals

/-!
# What Becomes of Records

What an operation can make of the record of a rover and of that of a mission.

A fleet has a dozen operations, and most of them leave a given record alone.
What is left is little. A mission is assigned, or a report comes in on it while
a rover holds it, or its rover is released. A rover is asked for, with or
without success, or a report comes in on the mission that holds it, or it is
released, or it recovers. `Fleet.Alters` and `Fleet.Treats` list these cases,
each with the operation that brings it about and with the new record, so a
property of one record is kept by every operation if it is kept in each case.

No record is ever removed. A new rover is free, and a new mission waits.

## Main definitions

* `Fleet.Alters`: What becomes of the record of a mission.
* `Fleet.Treats`: What becomes of the record of a rover.

## Theorems

* `Fleet.Consistent.alters`: These are all cases for a mission.
* `Fleet.Consistent.treats`: These are all cases for a rover.
* `Fleet.Consistent.new_rover`: What a new rover is like.
-/

namespace RoverDispatch

namespace Fleet

variable {f : Fleet} {rover mission : Int} {r : RoverRecord} {m : MissionRecord}
  {op : Operation}

/-! ### Missions -/

/-- What an operation can make of the record of a mission. -/
inductive Alters (f : Fleet) (mission : Int) (m : MissionRecord) :
    Operation → MissionRecord → Prop where
  | keeps (op : Operation) : Alters f mission m op m
  | assigns {rover : Int} {payload : Mission} (pending : m.state.status = .pending)
      (granted : (f.assign rover mission).1 = .ok payload) :
      Alters f mission m (.assign rover mission) (assigned m rover)
  | updates {rover : Int} {r : RoverRecord} (held : f.Held rover r mission m) (u : Update) :
      Alters f mission m (.update mission u) (u.mission rover m)
  /-- The rover was held without a session. -/
  | releases {rover : Int} {r : RoverRecord} (held : f.Held rover r mission m) :
      Alters f mission m (.releaseOrphan rover)
        ((withdrawal (decide (0 < m.reports)) "session lost after progress").mission rover m)

/-- When the record of one mission is replaced, the others are kept. -/
theorem alters_insert (hm : f.missions.find? mission = some m) {mission' : Int}
    {m' m'' : MissionRecord} (hm' : f.missions.find? mission' = some m')
    (halters : f.Alters mission' m' op m'') :
    ∃ m₁, (f.missions.insert mission' m'').find? mission = some m₁ ∧
      f.Alters mission m op m₁ := by
  by_cases hmission : mission = mission'
  · subst hmission
    cases hm.symm.trans hm'
    exact ⟨m'', Table.find?_insert_self _ _ _, halters⟩
  · exact ⟨m, (Table.find?_insert_of_ne _ hmission _).trans hm, .keeps op⟩

/-- What an operation makes of the record of a mission. -/
theorem Consistent.alters (h : f.Consistent) (hm : f.missions.find? mission = some m)
    (op : Operation) : ∃ m', (f.perform op).missions.find? mission = some m' ∧
      f.Alters mission m op m' := by
  cases op with
  | register rover endpoint =>
      refine ⟨m, ?_, .keeps _⟩
      rw [Fleet.perform, Fleet.register]
      split <;> exact hm
  | setEndpoint rover endpoint =>
      refine ⟨m, ?_, .keeps _⟩
      rw [Fleet.perform, Fleet.setEndpoint]
      split <;> exact hm
  | submit draft now =>
      refine ⟨m, ?_, .keeps _⟩
      rw [Fleet.perform, Fleet.submit_eq]
      split
      · exact hm
      · -- The number of the new mission has not been given out before.
        exact (Table.find?_insert_of_ne _ (Int.ne_of_lt (h.numbered hm).2) _).trans hm
  | assign rover mission' =>
      -- Only an assignment that is granted writes to a mission.
      have hassigns := f.assigns rover mission'
      rw [Fleet.perform]
      generalize hresult : f.assign rover mission' = result at hassigns ⊢
      cases hassigns with
      | refused e => exact ⟨m, hm, .keeps _⟩
      | released e roverRecord available => exact ⟨m, hm, .keeps _⟩
      | tied roverRecord available missionRecord pending =>
          exact alters_insert hm missionRecord (.assigns pending (congrArg Prod.fst hresult))
  | update mission' u =>
      rcases h.perform_update mission' u with hsame | ⟨rover, r, m', hheld, hput⟩
      · exact ⟨m, by rw [hsame, hm], .keeps _⟩
      · rw [hput]
        exact alters_insert hm hheld.missionRecord (.updates hheld u)
  | releaseOrphan rover =>
      rcases h.perform_releaseOrphan rover with hsame | ⟨r, mission', m', hheld, hput⟩
      · exact ⟨m, by rw [hsame, hm], .keeps _⟩
      · rw [hput]
        exact alters_insert hm hheld.missionRecord (.releases hheld)
  | recoverFaulted now cooldown => exact ⟨m, hm, .keeps _⟩

/-! ### Rovers -/

/-- An operation does not ask for a rover that is available. -/
def Operation.Spares (rover : Int) (r : RoverRecord) : Operation → Prop
  | .assign rover' _ => rover' = rover → r.state.status ≠ .available
  | _ => True

/-- What an operation can make of the record of a rover. -/
inductive Treats (f : Fleet) (rover : Int) (r : RoverRecord) : Operation → RoverRecord → Prop where
  /-- Nothing, or it has another address. An assignment has no more effect than
      that on a rover that is not available. -/
  | keeps {op : Operation} {r' : RoverRecord} (state : r'.state = r.state)
      (progress : r'.progress = r.progress) (spared : op.Spares rover r) :
      Treats f rover r op r'
  /-- The rover is asked for, and shows no progress whether it gets the mission
      or not. -/
  | asks {mission : Int} {r' : RoverRecord} (available : r.state.status = .available)
      (status : r'.state.status ≠ .fault) (progress : r'.progress = .zero) :
      Treats f rover r (.assign rover mission) r'
  | updates {mission : Int} {m : MissionRecord} (held : f.Held rover r mission m) (u : Update) :
      Treats f rover r (.update mission u) (u.rover mission r)
  | releases {mission : Int} {m : MissionRecord} (held : f.Held rover r mission m) :
      Treats f rover r (.releaseOrphan rover) (released r)
  | recovers {now cooldown : Nat} (fault : r.state.status = .fault) :
      Treats f rover r (.recoverFaulted now cooldown)
        { r with state.status := .available, state.faultSince? := none }

/-- A rover that is not asked for can keep its record. -/
theorem Treats.refl (h : op.Spares rover r) : f.Treats rover r op r :=
  .keeps rfl rfl h

/-- When the record of one rover is replaced, the others are kept. -/
theorem treats_insert (hr : f.rovers.find? rover = some r) {rover' : Int} {r' r'' : RoverRecord}
    (hr' : f.rovers.find? rover' = some r') (htreats : f.Treats rover' r' op r'')
    (hspares : rover ≠ rover' → op.Spares rover r) :
    ∃ r₁, (f.rovers.insert rover' r'').find? rover = some r₁ ∧ f.Treats rover r op r₁ := by
  by_cases hrover : rover = rover'
  · subst hrover
    cases hr.symm.trans hr'
    exact ⟨r'', Table.find?_insert_self _ _ _, htreats⟩
  · exact ⟨r, (Table.find?_insert_of_ne _ hrover _).trans hr, .refl (hspares hrover)⟩

/-- What an assignment makes of the record of a rover. -/
theorem Consistent.treats_assign (h : f.Consistent) (hr : f.rovers.find? rover = some r)
    (rover' mission : Int) : ∃ r', (f.assign rover' mission).2.rovers.find? rover = some r' ∧
      f.Treats rover r (.assign rover' mission) r' := by
  have hspares : rover ≠ rover' → (Operation.assign rover' mission).Spares rover r :=
    fun hother hsame => absurd hsame.symm hother
  rcases hresult : f.assign rover' mission with ⟨_ | payload, f'⟩
  · -- The rover of a refused assignment is wiped if it was available.
    have hwiped := h.assign_refused hresult
    by_cases hasked : ∃ r', f.rovers.find? rover' = some r' ∧ r'.state.status = .available
    · rcases hasked with ⟨r', hr', available⟩
      rw [hwiped, Table.modify_eq_insert hr', wiped, if_pos available]
      have hstatus : r'.state.status ≠ .fault := by
        rw [available]
        rintro ⟨⟩
      exact treats_insert hr hr' (.asks available hstatus rfl) hspares
    · have hsame : f.rovers.modify rover' wiped = f.rovers :=
        Table.modify_eq_self (fun r' hr' => if_neg (fun available => hasked ⟨r', hr', available⟩))
      rw [hwiped, hsame]
      refine ⟨r, hr, .refl (fun hrover available => hasked ⟨r, ?_, available⟩)⟩
      rw [hrover, hr]
  · have hassigns := f.assigns rover' mission
    rw [hresult] at hassigns
    cases hassigns with
    | @tied r' m roverRecord available missionRecord pending =>
        have hstatus : (reserved r' mission).state.status ≠ .fault := by rintro ⟨⟩
        exact treats_insert hr roverRecord (.asks available hstatus rfl) hspares

/-- What an operation makes of the record of a rover. -/
theorem Consistent.treats (h : f.Consistent) (hr : f.rovers.find? rover = some r)
    (op : Operation) : ∃ r', (f.perform op).rovers.find? rover = some r' ∧
      f.Treats rover r op r' := by
  cases op with
  | register rover' endpoint =>
      rw [Fleet.perform, Fleet.register]
      split
      · -- The rover that is registered was not known, so it is another one.
        rename_i hnone
        have hrover : rover ≠ rover' := by
          rintro rfl
          cases hnone.symm.trans hr
        exact ⟨r, (Table.find?_insert_of_ne _ hrover _).trans hr, .refl trivial⟩
      · rename_i r' hr'
        exact treats_insert hr hr' (.keeps rfl rfl trivial) (fun _ => trivial)
  | setEndpoint rover' endpoint =>
      rw [Fleet.perform, Fleet.setEndpoint]
      split
      · exact ⟨r, hr, .refl trivial⟩
      · rename_i r' hr'
        exact treats_insert hr hr' (.keeps rfl rfl trivial) (fun _ => trivial)
  | submit draft now =>
      refine ⟨r, ?_, .refl trivial⟩
      rw [Fleet.perform, Fleet.submit_eq]
      split <;> exact hr
  | assign rover' mission => exact h.treats_assign hr rover' mission
  | update mission u =>
      rcases h.perform_update mission u with hsame | ⟨rover', r', m, hheld, hput⟩
      · exact ⟨r, by rw [hsame, hr], .refl trivial⟩
      · rw [hput]
        exact treats_insert hr hheld.roverRecord (.updates hheld u) (fun _ => trivial)
  | releaseOrphan rover' =>
      rcases h.perform_releaseOrphan rover' with hsame | ⟨r', mission, m, hheld, hput⟩
      · exact ⟨r, by rw [hsame, hr], .refl trivial⟩
      · rw [hput]
        exact treats_insert hr hheld.roverRecord (.releases hheld) (fun _ => trivial)
  | recoverFaulted now cooldown =>
      -- Every rover is looked at, and only those that are out of order change.
      refine ⟨recovered now cooldown r, ?_, ?_⟩
      · rw [Fleet.perform, find?_recoverFaulted, hr]
        rfl
      · rw [recovered]
        split
        · rename_i hrecovers
          exact .recovers hrecovers.1
        · exact .refl trivial

/-- When a record is replaced, no other one appears. -/
theorem find?_insert_eq_none (hnone : f.rovers.find? rover = none) {rover' : Int}
    {r' : RoverRecord} (hr' : f.rovers.find? rover' = some r') (r'' : RoverRecord) :
    (f.rovers.insert rover' r'').find? rover = none := by
  have hrover : rover ≠ rover' := by
    rintro rfl
    cases hnone.symm.trans hr'
  rw [Table.find?_insert_of_ne _ hrover, hnone]

/-- A rover that is new is free and has done nothing. -/
theorem Consistent.new_rover (h : f.Consistent) (hnone : f.rovers.find? rover = none)
    (op : Operation) : (f.perform op).rovers.find? rover = none ∨
      ∃ endpoint, (f.perform op).rovers.find? rover = some (.start endpoint) := by
  cases op with
  -- Only registering makes a rover known. All other operations write the record of a rover that is
  -- known already, which cannot be this one.
  | register rover' endpoint =>
      rw [Fleet.perform, Fleet.register]
      split
      · by_cases hrover : rover = rover'
        · subst hrover
          exact .inr ⟨endpoint, Table.find?_insert_self _ _ _⟩
        · exact .inl ((Table.find?_insert_of_ne _ hrover _).trans hnone)
      · rename_i r' hr'
        exact .inl (find?_insert_eq_none hnone hr' _)
  | setEndpoint rover' endpoint =>
      rw [Fleet.perform, Fleet.setEndpoint]
      split
      · exact .inl hnone
      · rename_i r' hr'
        exact .inl (find?_insert_eq_none hnone hr' _)
  | submit draft now =>
      rw [Fleet.perform, Fleet.submit_eq]
      split <;> exact .inl hnone
  | assign rover' mission =>
      have hassigns := f.assigns rover' mission
      rw [Fleet.perform]
      generalize f.assign rover' mission = result at hassigns ⊢
      cases hassigns with
      | refused e => exact .inl hnone
      | released e roverRecord available => exact .inl (find?_insert_eq_none hnone roverRecord _)
      | tied roverRecord available missionRecord pending =>
          exact .inl (find?_insert_eq_none hnone roverRecord _)
  | update mission u =>
      rcases h.perform_update mission u with hsame | ⟨rover', r', m, hheld, hput⟩
      · exact .inl (by rw [hsame, hnone])
      · rw [hput]
        exact .inl (find?_insert_eq_none hnone hheld.roverRecord _)
  | releaseOrphan rover' =>
      rcases h.perform_releaseOrphan rover' with hsame | ⟨r', mission, m, hheld, hput⟩
      · exact .inl (by rw [hsame, hnone])
      · rw [hput]
        exact .inl (find?_insert_eq_none hnone hheld.roverRecord _)
  | recoverFaulted now cooldown =>
      refine .inl ?_
      rw [Fleet.perform, find?_recoverFaulted, hnone]
      rfl

end Fleet

end RoverDispatch
