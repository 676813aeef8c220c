import RoverDispatch.Proofs.Fleet.Records

/-!
# Stages of Missions

Which way a mission can go.

A mission waits, is assigned to a rover, is worked on, and comes to an end. It
goes back only from where a rover holds it, and then it waits again. Each of
these turns is brought about by few operations, which `Fleet.Turns` lists. What
the list leaves out does not happen: whatever arrives late for a mission that
has ended does nothing, and no way leads back from there.

How often a mission has been assigned is counted, and so is the progress that
was reported since. The two counts together tell whether progress was reported
in the current attempt, as long as no attempt begins with reports of an earlier
one. `MissionRecord.HeardOf` says that an attempt in which progress was reported
shows it until it is over, and a rover that is released looks at nothing else.

## Main definitions

* `Fleet.Turns`: The turns a mission can take, and what brings them about.
* `MissionRecord.HeardOf`: In an attempt of a mission progress was reported.

## Theorems

* `Fleet.Consistent.performAll_alters`: What no operation changes in a mission
  stays as it is.
* `Fleet.Alters.eq_of_finished`: A mission that has ended is not changed.
* `Fleet.Alters.turns`: These are all turns.
* `Fleet.Alters.attempts_eq`: Attempts are counted.
* `Fleet.Alters.heardOf`: Reports of the current attempt are not forgotten.
* `Fleet.mission_stages`: The life of a mission.
-/

namespace RoverDispatch

/-- The attempt has begun, and progress was reported in it if it is still the
    current one and not over. -/
structure MissionRecord.HeardOf (attempt : Nat) (m : MissionRecord) : Prop where
  begun : attempt ≤ m.attempts
  reported : m.attempts = attempt → m.state.isActive = true → 0 < m.reports

namespace Fleet

variable {f : Fleet} {mission : Int} {m m' : MissionRecord} {op : Operation}

/-! ### Turns -/

/-- The turns a mission can take, each with an operation that brings it
    about. -/
inductive Turns (f : Fleet) (mission : Int) :
    Operation → MissionStatus → MissionStatus → Prop where
  | assigned {rover : Int} {payload : Mission}
      (granted : (f.assign rover mission).1 = .ok payload) :
      Turns f mission (.assign rover mission) .pending .assigned
  | confirmed : Turns f mission (.update mission .confirm) .assigned .inProgress
  | reported (p : Progress) :
      Turns f mission (.update mission (.recordProgress p)) .assigned .inProgress
  | completed {s : MissionStatus} (active : s.isActive = true) :
      Turns f mission (.update mission .complete) s .completed
  | failed {s : MissionStatus} (active : s.isActive = true) (e : ErrorReport) (now : Nat) :
      Turns f mission (.update mission (.fail e now)) s .failed
  | abandoned {s : MissionStatus} (active : s.isActive = true) (reason : String) :
      Turns f mission (.update mission (.abandon reason)) s .failed
  | reverted {s : MissionStatus} (active : s.isActive = true) :
      Turns f mission (.update mission .revert) s .pending
  /-- Progress was reported before the session was lost. -/
  | lost {s : MissionStatus} (active : s.isActive = true) (rover : Int) :
      Turns f mission (.releaseOrphan rover) s .failed
  /-- The session was lost before progress was reported. -/
  | returned {s : MissionStatus} (active : s.isActive = true) (rover : Int) :
      Turns f mission (.releaseOrphan rover) s .pending

/-- A mission in progress has been assigned before, or is in progress already. -/
theorem Held.turns_inProgress {rover : Int} {r : RoverRecord} (h : f.Held rover r mission m)
    (hturn : f.Turns mission op .assigned .inProgress) :
    MissionStatus.inProgress = m.state.status ∨
      f.Turns mission op m.state.status .inProgress := by
  rcases h.engaged.mission_eq with hstate | hstate
  · rw [hstate]
    exact .inr hturn
  · rw [hstate]
    exact .inl rfl

/-- What becomes of a mission is one of the turns, or its status is the same. -/
theorem Alters.turns (h : f.Alters mission m op m') :
    m'.state.status = m.state.status ∨
      f.Turns mission op m.state.status m'.state.status := by
  cases h with
  | keeps op => exact .inl rfl
  | assigns pending granted =>
      rw [pending]
      exact .inr (.assigned granted)
  | updates held u =>
      have active := held.engaged.isActive
      cases u with
      | confirm => exact held.turns_inProgress .confirmed
      | recordProgress p => exact held.turns_inProgress (.reported p)
      | complete => exact .inr (.completed active)
      | fail e now => exact .inr (.failed active e now)
      | abandon reason => exact .inr (.abandoned active reason)
      | revert => exact .inr (.reverted active)
  | @releases rover r held =>
      have active := held.engaged.isActive
      -- The reports decide which of the two ways of withdrawing a mission it is.
      by_cases hseen : 0 < m.reports
      · rw [decide_eq_true hseen]
        exact .inr (.lost active rover)
      · rw [decide_eq_false hseen]
        exact .inr (.returned active rover)

/-! ### What stays -/

/-- What no operation changes in a mission is the same after any number of
    operations. -/
theorem Consistent.performAll_alters (h : f.Consistent) {P : MissionRecord → Prop}
    (hkept : ∀ {f m op m'}, P m → Alters f mission m op m' → P m')
    (hm : f.missions.find? mission = some m) (hP : P m) (ops : List Operation) :
    ∃ m', (f.performAll ops).missions.find? mission = some m' ∧ P m' := by
  induction ops generalizing f m with
  | nil => exact ⟨m, hm, hP⟩
  | cons op ops ih =>
      rcases h.alters hm op with ⟨m', hm', halters⟩
      exact ih (h.perform op) hm' (hkept hP halters)

/-- Nothing becomes of a mission that has ended. -/
theorem Alters.eq_of_finished (h : f.Alters mission m op m')
    (finished : m.state.isFinished = true) : m' = m := by
  have hheld {rover : Int} {r : RoverRecord} (held : f.Held rover r mission m) : m' = m := by
    have hunfinished := held.engaged.isFinished_eq
    rw [finished] at hunfinished
    cases hunfinished
  cases h with
  | keeps op => rfl
  | assigns pending granted =>
      rw [MissionState.isFinished, pending] at finished
      cases finished
  | updates held u => exact hheld held
  | releases held => exact hheld held

/-- A mission that is held does not wait. -/
theorem Held.status_ne_pending {rover : Int} {r : RoverRecord} (h : f.Held rover r mission m) :
    m.state.status ≠ .pending := by
  rcases h.engaged.mission_eq with hstate | hstate
  · rw [hstate]
    exact nofun
  · rw [hstate]
    exact nofun

/-- A report says nothing about the number of attempts. -/
theorem Update.attempts_mission (u : Update) (rover : Int) (m : MissionRecord) :
    (u.mission rover m).attempts = m.attempts := by
  cases u <;> rfl

/-- An attempt is counted when a mission that waits is assigned, and only
    then. -/
theorem Alters.attempts_eq (h : f.Alters mission m op m') :
    m'.attempts = m.attempts +
      if m.state.status = .pending ∧ m'.state.status = .assigned then 1 else 0 := by
  cases h with
  | keeps op =>
      -- The status is the same before and after, so it cannot be both.
      rw [if_neg (fun hboth => nomatch hboth.1.symm.trans hboth.2), Nat.add_zero]
  | assigns pending granted => rw [if_pos ⟨pending, rfl⟩, assigned]
  | updates held u =>
      rw [if_neg (fun hboth => held.status_ne_pending hboth.1), Nat.add_zero, u.attempts_mission]
  | releases held =>
      rw [if_neg (fun hboth => held.status_ne_pending hboth.1), Nat.add_zero,
        Update.attempts_mission]

/-! ### Reports of the current attempt -/

/-- A mission is not held any more after it has been withdrawn. -/
theorem isActive_withdrawal (progressSeen : Bool) (reason : String) (rover : Int)
    (m : MissionRecord) :
    ((withdrawal progressSeen reason).mission rover m).state.isActive = false := by
  cases progressSeen <;> rfl

/-- A report on a mission in an attempt of which there was one. -/
theorem Update.heardOf (u : Update) (rover : Int) {attempt : Nat} (h : m.HeardOf attempt)
    (active : m.state.isActive = true) : (u.mission rover m).HeardOf attempt := by
  refine ⟨by rw [u.attempts_mission]; exact h.begun, fun hattempt hactive => ?_⟩
  rw [u.attempts_mission] at hattempt
  cases u with
  | confirm => exact h.reported hattempt active
  | recordProgress p => exact Nat.succ_pos _
  | _ => cases hactive

/-- A report of the current attempt is not forgotten until it is over. -/
theorem Alters.heardOf {attempt : Nat} (h : m.HeardOf attempt)
    (halters : f.Alters mission m op m') : m'.HeardOf attempt := by
  cases halters with
  | keeps op => exact h
  | assigns pending granted =>
      -- Another attempt begins.
      have hlt : attempt < m.attempts + 1 := Nat.lt_succ_of_le h.begun
      exact ⟨Nat.le_of_lt hlt, fun hattempt => absurd hattempt (Nat.ne_of_gt hlt)⟩
  | updates held u => exact u.heardOf _ h held.engaged.isActive
  | releases held =>
      refine ⟨by rw [Update.attempts_mission]; exact h.begun, fun _ hactive => ?_⟩
      rw [isActive_withdrawal] at hactive
      cases hactive

/-- A report on a mission that a rover holds is the first or a further one of
    the current attempt. -/
theorem Consistent.heardOf_recordProgress (h : f.Consistent)
    (hm : f.missions.find? mission = some m) (active : m.state.isActive = true) (p : Progress) :
    ∃ m', (f.perform (.update mission (.recordProgress p))).missions.find? mission = some m' ∧
      m'.HeardOf m.attempts := by
  rcases h.missions hm with hidle | ⟨rover, r, hheld⟩
  · rw [hidle.isActive_eq] at active
    cases active
  · refine ⟨(Update.recordProgress p).mission rover m, ?_, Nat.le_refl _,
      fun _ _ => Nat.succ_pos m.reports⟩
    rw [hheld.perform_update]
    exact find?_put_mission

/-- A rover that is released in an attempt in which progress was reported does
    not send its mission back. -/
theorem Alters.eq_or_failed {attempt : Nat} {rover : Int} (h : m.HeardOf attempt)
    (halters : f.Alters mission m (.releaseOrphan rover) m') (hattempt : m.attempts = attempt) :
    m' = m ∨ m'.state.status = .failed := by
  cases halters with
  | keeps op => exact .inl rfl
  | releases held =>
      rw [decide_eq_true (h.reported hattempt held.engaged.isActive)]
      exact .inr rfl

/-! ### The life of a mission -/

/-- Whatever has been done to a fleet, a mission that has ended keeps its record
    for good. Every other mission has the same status after the next operation, or
    it takes one of the turns above. The number of its attempts is raised by one
    if it waited and is assigned now, and stays the same otherwise. And if progress
    was reported on a mission that a rover held, then no rover that is released in
    the same attempt sends it back: the release does nothing to the mission, or it
    has failed. -/
theorem mission_stages (ops : List Operation) {mission : Int} {m : MissionRecord}
    (hm : (empty.performAll ops).missions.find? mission = some m) :
    let f := empty.performAll ops
    (m.state.isFinished = true →
      ∀ later, (f.performAll later).missions.find? mission = some m) ∧
    (∀ op, ∃ m', (f.perform op).missions.find? mission = some m' ∧
      (m'.state.status = m.state.status ∨
        f.Turns mission op m.state.status m'.state.status) ∧
      m'.attempts = m.attempts +
        if m.state.status = .pending ∧ m'.state.status = .assigned then 1 else 0) ∧
    (m.state.isActive = true → ∀ p later rover,
      let g := (f.perform (.update mission (.recordProgress p))).performAll later
      ∃ m₁ m₂, g.missions.find? mission = some m₁ ∧
        (g.perform (.releaseOrphan rover)).missions.find? mission = some m₂ ∧
        (m₁.attempts = m.attempts → m₂ = m₁ ∨ m₂.state.status = .failed)) := by
  intro f
  have h : f.Consistent := consistent_empty.performAll ops
  refine ⟨fun finished later => ?_, fun op => ?_, fun active p later rover => ?_⟩
  · have hkept : ∀ {f m₁ op m₂}, m₁ = m → Alters f mission m₁ op m₂ → m₂ = m := by
      rintro f _ op m₂ rfl halters
      exact halters.eq_of_finished finished
    rcases h.performAll_alters hkept hm rfl later with ⟨_, hlater, rfl⟩
    exact hlater
  · rcases h.alters hm op with ⟨m', hm', halters⟩
    exact ⟨m', hm', halters.turns, halters.attempts_eq⟩
  · -- From the report on, whatever is done, the current attempt shows it.
    intro g
    have hnext := h.perform (.update mission (.recordProgress p))
    have hg : g.Consistent := hnext.performAll later
    rcases h.heardOf_recordProgress hm active p with ⟨m₀, hm₀, hheard⟩
    rcases hnext.performAll_alters Alters.heardOf hm₀ hheard later with ⟨m₁, hm₁, hheard⟩
    rcases hg.alters hm₁ (.releaseOrphan rover) with ⟨m₂, hm₂, halters⟩
    exact ⟨m₁, m₂, hm₁, hm₂, halters.eq_or_failed hheard⟩

/-- The session is lost after a report, so the mission has failed and will not be
    assigned again. -/
theorem mission_stages_lost :
    let draft : Draft := ⟨.zero, .zero, .zero, .zero, "scan", 60, 30, none, 1⟩
    let f := empty.performAll [.register 1 none, .submit draft 0, .assign 1 1,
      .update 1 (.recordProgress ⟨1, 4, .two⟩), .releaseOrphan 1]
    ∃ m, m.state.status = .failed ∧ m.attempts = 1 ∧
      ∀ later, (f.performAll later).missions.find? 1 = some m := by
  intro draft f
  have hrun : (f.missions.find? 1).map (fun m => (m.state.status, m.attempts)) =
      some (.failed, 1) := by decide +kernel
  rcases Option.map_eq_some_iff.1 hrun with ⟨m, hm, hstatus⟩
  rcases Prod.mk.inj hstatus with ⟨hstatus, hattempts⟩
  have finished : m.state.isFinished = true := by
    rw [MissionState.isFinished, hstatus]
    rfl
  exact ⟨m, hstatus, hattempts, (mission_stages _ hm).1 finished⟩

end Fleet

end RoverDispatch
