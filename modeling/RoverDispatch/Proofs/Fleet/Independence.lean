import RoverDispatch.Proofs.Fleet.Refusals

/-!
# Independent Missions

Reports on different missions do not get in each other's way.

A report names its mission only, and the rover is looked up in the record of
the mission. So two reports write to two missions and two rovers, and nothing
in either of them says that the rovers differ. `Fleet.Consistent` does: a rover
that two missions held would be tied to both. Then what one report writes is
not what the other one reads, neither to find out whether it has any effect
nor to find the rover.

From pairs of reports this carries over to any number of them. Two sequences
that tell the same of each mission, in the same order, can be turned into each
other by exchanging neighbours about different missions, so it makes no
difference how the sessions of a fleet take turns.

## Main definitions

* `Fleet.answer`: The answer to a report.
* `Fleet.reports`: Reports on missions as operations.

## Theorems

* `Fleet.put_comm`: Different records can change in either order.
* `Fleet.Consistent.perform_update_of_ne`: What a report does to its mission, it
  does after a report on another mission.
* `Fleet.Consistent.perform_update_comm`: Reports on different missions can be
  made in either order.
* `Fleet.Consistent.find?_perform_update_rover`: A rover that the mission does
  not hold keeps its record.
* `Fleet.Consistent.performAll_reports_congr`: Only the order of the reports on
  each mission counts.
* `Fleet.Consistent.rover_eq`: A mission holds one rover at most.
* `Fleet.missions_independent`: Missions do not get in each other's way.
-/

namespace RoverDispatch

namespace Fleet

/-- The answer to a report, which is nothing unless it is refused. -/
def answer (f : Fleet) (mission : Int) (u : Update) : Except FleetError Unit :=
  (f.update mission u).map (fun _ => ())

variable {f f' : Fleet} {rover rover' mission mission' : Int} {r r' : RoverRecord}
  {m m' : MissionRecord} {u u' : Update}

/-! ### Two reports -/

/-- Records of different rovers and missions can change in either order. -/
theorem put_comm (hrover : rover ≠ rover') (hmission : mission ≠ mission') :
    (f.put rover r mission m).put rover' r' mission' m' =
      (f.put rover' r' mission' m').put rover r mission m := by
  simp only [put, Table.insert_comm _ hrover, Table.insert_comm _ hmission]

/-- Different missions hold different rovers. -/
theorem Held.rover_ne (h : f.Held rover r mission m) (h' : f.Held rover' r' mission' m')
    (hne : mission ≠ mission') : rover ≠ rover' := by
  rintro rfl
  cases h.roverRecord.symm.trans h'.roverRecord
  exact hne (Option.some.inj (h.engaged.mission?_eq.symm.trans h'.engaged.mission?_eq))

/-- A report is refused exactly if nothing is known of its mission. -/
theorem answer_eq (f : Fleet) (mission : Int) (u : Update) :
    f.answer mission u =
      if (f.missions.find? mission).isSome then .ok () else .error (.unknownMission mission) := by
  cases hm : f.missions.find? mission with
  | none =>
      rw [answer, update_unknown hm]
      rfl
  | some m =>
      have hok : ∃ f', f.update mission u = .ok f' := by
        -- A mission that is known can be reported on in any state, whatever becomes of the report.
        cases u <;>
          simp only [update, Fleet.confirm, Fleet.recordProgress, Fleet.complete, Fleet.fail,
            Fleet.abandon, Fleet.finish, Fleet.revert, hm]
        case confirm => exact ⟨_, rfl⟩
        all_goals split <;> exact ⟨_, rfl⟩
      rcases hok with ⟨f', hf'⟩
      rw [answer, hf']
      rfl

/-- A report on a mission of which nothing is known. -/
theorem perform_update_unknown (hm : f.missions.find? mission = none) (u : Update) :
    f.perform (.update mission u) = f := by
  rw [perform, update_unknown hm]
  rfl

/-- A report on a mission that nobody holds. -/
theorem Consistent.perform_update_idle (h : f.Consistent) (hm : f.missions.find? mission = some m)
    (hidle : m.state.IsIdle) (u : Update) : f.perform (.update mission u) = f := by
  rw [Fleet.perform, h.update_idle hm hidle]
  rfl

/-- A report leaves the records of all other missions as they are. -/
theorem Consistent.find?_perform_update_of_ne (h : f.Consistent) (hne : mission' ≠ mission)
    (u : Update) :
    (f.perform (.update mission u)).missions.find? mission' = f.missions.find? mission' := by
  rcases h.perform_update mission u with hsame | ⟨rover, r, m, -, hput⟩
  · rw [hsame]
  · rw [hput, find?_put_mission_of_ne hne]

/-- A report leaves the record of a rover that its mission does not hold as it
    is. -/
theorem Consistent.find?_perform_update_rover (h : f.Consistent)
    (hother : ∀ r, f.rovers.find? rover = some r → r.state.mission? ≠ some mission) (u : Update) :
    (f.perform (.update mission u)).rovers.find? rover = f.rovers.find? rover := by
  rcases h.perform_update mission u with hsame | ⟨rover', r, m, hheld, hput⟩
  · rw [hsame]
  · rw [hput]
    refine find?_put_rover_of_ne ?_
    rintro rfl
    exact hother r hheld.roverRecord hheld.engaged.mission?_eq

/-- What a mission holds, it holds after a report on another mission. -/
theorem Consistent.held_perform_update (h : f.Consistent) (hheld : f.Held rover r mission m)
    (hne : mission ≠ mission') (u' : Update) :
    (f.perform (.update mission' u')).Held rover r mission m := by
  refine hheld.congr (h.find?_perform_update_rover (fun r' hr' hmission => ?_) u')
    (h.find?_perform_update_of_ne hne u')
  cases hheld.roverRecord.symm.trans hr'
  exact hne (Option.some.inj (hheld.engaged.mission?_eq.symm.trans hmission))

/-- What a report does to a mission, it does after a report on another one:
    nothing, or it replaces the same two records by the same new ones. -/
theorem Consistent.perform_update_of_ne (h : f.Consistent) (hne : mission ≠ mission')
    (u u' : Update) :
    let g := f.perform (.update mission' u')
    (f.perform (.update mission u) = f ∧ g.perform (.update mission u) = g) ∨
      ∃ rover r m, f.Held rover r mission m ∧
        f.perform (.update mission u) =
          f.put rover (u.rover mission r) mission (u.mission rover m) ∧
        g.perform (.update mission u) =
          g.put rover (u.rover mission r) mission (u.mission rover m) := by
  intro g
  have hg : g.Consistent := h.perform _
  -- The other report has left the record of this mission alone, so both find the same.
  have hfind : g.missions.find? mission = f.missions.find? mission :=
    h.find?_perform_update_of_ne hne u'
  cases hm : f.missions.find? mission with
  | none =>
      exact .inl ⟨perform_update_unknown hm u, perform_update_unknown (hfind.trans hm) u⟩
  | some m =>
      rcases h.missions hm with hidle | ⟨rover, r, hheld⟩
      · exact .inl ⟨h.perform_update_idle hm hidle u,
          hg.perform_update_idle (hfind.trans hm) hidle u⟩
      · exact .inr ⟨rover, r, m, hheld, hheld.perform_update u,
          (h.held_perform_update hheld hne u').perform_update u⟩

/-- Reports on different missions can be made in either order. -/
theorem Consistent.perform_update_comm (h : f.Consistent) (hne : mission ≠ mission')
    (u u' : Update) :
    (f.perform (.update mission u)).perform (.update mission' u') =
      (f.perform (.update mission' u')).perform (.update mission u) := by
  rcases h.perform_update_of_ne hne u u' with ⟨hsame, hlater⟩ | ⟨rover, r, m, hheld, hput, hlater⟩
  · rw [hsame, hlater]
  · rcases h.perform_update_of_ne hne.symm u' u with
      ⟨hsame', hlater'⟩ | ⟨rover', r', m', hheld', hput', hlater'⟩
    · rw [hsame', hlater']
    · -- Both of them change something, and the rovers are different ones.
      rw [hlater, hlater', hput, hput']
      exact put_comm (hheld.rover_ne hheld' hne) hne

/-- The answer to a report does not depend on a report on another mission. -/
theorem Consistent.answer_perform_update (h : f.Consistent) (hne : mission ≠ mission')
    (u u' : Update) : (f.perform (.update mission' u')).answer mission u = f.answer mission u := by
  rw [answer_eq, answer_eq, h.find?_perform_update_of_ne hne]

/-! ### Any number of reports -/

/-- Reports on missions as operations. -/
def reports (l : List (Int × Update)) : List Operation := l.map (fun x => .update x.1 x.2)

/-- A report can be made before others, as long as none of them is about its
    mission. -/
theorem Consistent.performAll_reports_append (h : f.Consistent) {earlier : List (Int × Update)}
    (hother : ∀ x ∈ earlier, x.1 ≠ mission) (u : Update) (later : List (Int × Update)) :
    f.performAll (reports (earlier ++ (mission, u) :: later)) =
      (f.perform (.update mission u)).performAll (reports (earlier ++ later)) := by
  induction earlier generalizing f with
  | nil => rfl
  | cons x earlier ih =>
      rcases List.forall_mem_cons.1 hother with ⟨hx, hother⟩
      -- The report is moved to the front, past one other at a time.
      calc f.performAll (reports (x :: earlier ++ (mission, u) :: later))
          = (f.perform (.update x.1 x.2)).performAll
              (reports (earlier ++ (mission, u) :: later)) := rfl
        _ = ((f.perform (.update x.1 x.2)).perform (.update mission u)).performAll
              (reports (earlier ++ later)) := ih (h.perform _) hother
        _ = ((f.perform (.update mission u)).perform (.update x.1 x.2)).performAll
              (reports (earlier ++ later)) := by rw [h.perform_update_comm hx]

/-- Two sequences of reports come to the same if they tell the same of every
    mission, in the same order. -/
theorem Consistent.performAll_reports_congr (h : f.Consistent) {l l' : List (Int × Update)}
    (hsame : ∀ mission, l.filter (fun x => x.1 = mission) = l'.filter (fun x => x.1 = mission)) :
    f.performAll (reports l) = f.performAll (reports l') := by
  induction l generalizing f l' with
  | nil =>
      -- Whatever the other sequence began with, it would tell of some mission.
      cases l' with
      | nil => rfl
      | cons x l' =>
          have hnone := hsame x.1
          simp only [List.filter_nil, List.filter_cons, decide_true, if_true, reduceCtorEq] at hnone
  | cons x l ih =>
      rcases x with ⟨mission, u⟩
      -- The first report is the first on its mission in the other sequence too.
      have hfirst : l'.filter (fun x => x.1 = mission) =
          (mission, u) :: l.filter (fun x => x.1 = mission) := by
        rw [← hsame mission, List.filter_cons, if_pos (decide_eq_true rfl)]
      rcases List.filter_eq_cons_iff.1 hfirst with ⟨earlier, later, rfl, hearlier, -, hlater⟩
      have hother : ∀ x ∈ earlier, x.1 ≠ mission :=
        fun x hx heq => hearlier x hx (decide_eq_true heq)
      rw [h.performAll_reports_append hother]
      refine ih (h.perform _) (fun mission' => ?_)
      have hrest := hsame mission'
      rw [List.filter_append, List.filter_cons, List.filter_cons] at hrest
      rw [List.filter_append]
      by_cases hmission : mission = mission'
      · subst hmission
        rw [List.filter_eq_nil_iff.2 hearlier, hlater, List.nil_append]
      · simpa only [hmission, decide_false, Bool.false_eq_true, if_false] using hrest

/-! ### Missions that do not get in each other's way -/

/-- A mission holds one rover at most. -/
theorem Consistent.rover_eq (h : f.Consistent) (hr : f.rovers.find? rover = some r)
    (hr' : f.rovers.find? rover' = some r') (hmission : r.state.mission? = some mission)
    (hmission' : r'.state.mission? = some mission) : rover = rover' := by
  rcases h.engaged hr hmission with ⟨m, hheld⟩
  rcases h.engaged hr' hmission' with ⟨m', hheld'⟩
  cases hheld.missionRecord.symm.trans hheld'.missionRecord
  exact Option.some.inj (hheld.engaged.rover?_eq.symm.trans hheld'.engaged.rover?_eq)

/-- A report gives out no number. -/
theorem Consistent.nextMission_perform_update (h : f.Consistent) (mission : Int) (u : Update) :
    (f.perform (.update mission u)).nextMission = f.nextMission := by
  rcases h.perform_update mission u with hsame | ⟨rover, r, m, -, hput⟩
  · rw [hsame]
  · rw [hput]
    rfl

/-- Whatever has been done to a fleet, reports of any kind on two different
    missions can be made in either order: the fleet is the same afterwards, and so
    is the answer to each. A report changes the record of its own mission at most,
    and that of the one rover whose record names this mission. So of any number of
    reports only the order of those on the same mission counts. -/
theorem missions_independent (ops : List Operation) :
    let f := empty.performAll ops
    (∀ mission mission', mission ≠ mission' → ∀ u u' : Update,
      let after := f.perform (.update mission u)
      let after' := f.perform (.update mission' u')
      after.perform (.update mission' u') = after'.perform (.update mission u) ∧
      after'.answer mission u = f.answer mission u ∧
      after.answer mission' u' = f.answer mission' u') ∧
    (∀ mission, ∀ u : Update,
      let after := f.perform (.update mission u)
      (∀ mission', mission' ≠ mission →
        after.missions.find? mission' = f.missions.find? mission') ∧
      (∀ rover, (∀ r, f.rovers.find? rover = some r → r.state.mission? ≠ some mission) →
        after.rovers.find? rover = f.rovers.find? rover) ∧
      (∀ rover rover' r r', f.rovers.find? rover = some r → f.rovers.find? rover' = some r' →
        r.state.mission? = some mission → r'.state.mission? = some mission → rover = rover') ∧
      after.nextMission = f.nextMission) ∧
    ∀ l l' : List (Int × Update),
      (∀ mission, l.filter (fun x => x.1 = mission) = l'.filter (fun x => x.1 = mission)) →
        f.performAll (reports l) = f.performAll (reports l') := by
  intro f
  have h : f.Consistent := consistent_empty.performAll ops
  refine ⟨fun mission mission' hne u u' => ⟨h.perform_update_comm hne u u', ?_, ?_⟩,
    fun mission u => ⟨?_, ?_, ?_, h.nextMission_perform_update mission u⟩,
    fun l l' => h.performAll_reports_congr⟩
  · exact h.answer_perform_update hne u u'
  · exact h.answer_perform_update hne.symm u' u
  · exact fun mission' hne => h.find?_perform_update_of_ne hne u
  · exact fun rover hother => h.find?_perform_update_rover hother u
  · exact fun rover rover' r r' => h.rover_eq

/-- Rover 1 reports progress and completes its mission while the session with
    rover 2 gives up. -/
theorem missions_independent_two :
    let draft : Draft := ⟨.zero, .zero, .zero, .zero, "scan", 60, 30, none, 1⟩
    let f := empty.performAll [.register 1 none, .register 2 none, .submit draft 0,
      .submit draft 0, .assign 1 1, .assign 2 2]
    let p : Progress := ⟨1, 4, .two⟩
    let g := f.performAll (reports [(1, .recordProgress p), (2, .revert), (1, .complete)])
    g = f.performAll (reports [(1, .recordProgress p), (1, .complete), (2, .revert)]) ∧
      (g.missions.find? 1).map MissionRecord.state = some (.completed 1) ∧
      (g.missions.find? 2).map MissionRecord.state = some .pending := by
  intro draft f p g
  refine ⟨(missions_independent _).2.2 _ _ (fun mission => ?_), by decide +kernel⟩
  by_cases hmission : mission = 1
  · subst hmission
    rfl
  · simp only [List.filter_cons, List.filter_nil, decide_eq_true_eq, Ne.symm hmission, if_false]

end Fleet

end RoverDispatch
