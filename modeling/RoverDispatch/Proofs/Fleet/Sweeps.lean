import RoverDispatch.Proofs.Fleet.Assignments
import RoverDispatch.Proofs.Fleet.StaleSessions

/-!
# Sweeps

What a sweep leaves behind, and that it leaves nothing to do.

A sweep has four rules and two tables, and the rules feed one another: taking
a session away can leave a rover without a session, unless the mission was
withdrawn with it, and only rovers that nothing holds recover. What makes it
tractable is that the rules before the last do the same thing to the fleet.
They withdraw missions, for different reasons, and a mission that is withdrawn
changes its own record and that of its rover. So it is enough to know from
which rovers a mission is withdrawn, and why. `Fleet.Withdrawn` says that a
fleet has come out of another one in this way, as a relation between rovers
and reasons, to which every step of a rule adds one pair.

A rover has one session and holds one mission, so no rover comes up twice, and
the second reason to withdraw a mission applies only where the first one does
not. After that everything is in line, and where everything is in line, a sweep
does nothing.

## Main definitions

* `Fleet.Withdrawal`: How a mission is taken from its rover.
* `Fleet.Withdrawn`: A fleet after some missions have been withdrawn.
* `Dispatcher.Silent`, `Dispatcher.Orphaned`: The two reasons.
* `Dispatcher.Served`: Sessions are about missions that their rovers hold.
* `Dispatcher.Abandoned`, `Dispatcher.Withdraws`: What a sweep withdraws.
* `Dispatcher.Swept`: What a sweep has before rovers recover.
* `Dispatcher.InLine`: There is nothing to do for a sweep.
* `Dispatcher.Reconciles`: What a sweep makes of a fleet and its sessions.

## Theorems

* `Fleet.Withdrawn.put`: One more mission is withdrawn.
* `Fleet.Withdrawn.mem_engaged_iff`: Who is still held.
* `Dispatcher.withdrawn_foldl_sweepSession`,
  `Dispatcher.withdrawn_foldl_releaseOne`: What the rules withdraw.
* `Dispatcher.InLine.sweep_eq`: A sweep with nothing to do does nothing.
* `Dispatcher.inLine_sweep`: A sweep leaves nothing to do.
* `Dispatcher.Swept.find?_stale`, `Dispatcher.Swept.find?_orphaned`,
  `Dispatcher.Swept.find?_other`: What becomes of each rover and its mission.
* `Dispatcher.sweep_reconciles`: What one sweep does, and all that it does.
-/

namespace RoverDispatch

namespace Fleet

variable {f g : Fleet} {rover mission : Int} {r : RoverRecord} {m : MissionRecord}

/-! ### Fleets from which missions have been withdrawn -/

/-- How a mission is taken from its rover: whether progress was seen, and the
    reason that is given if so. -/
structure Withdrawal where
  progressSeen : Bool
  reason : String
  deriving DecidableEq, Inhabited

/-- What becomes of the mission: it has failed or is pending again. -/
def Withdrawal.record (w : Withdrawal) (rover : Int) (m : MissionRecord) : MissionRecord :=
  if w.progressSeen then { m with state := .failed rover ⟨none, w.reason⟩ } else reverted m

theorem mission_withdrawal (progressSeen : Bool) (reason : String) (rover : Int)
    (m : MissionRecord) :
    (withdrawal progressSeen reason).mission rover m =
      (Withdrawal.mk progressSeen reason).record rover m := by
  cases progressSeen <;> rfl

/-- A rover holds one mission, and there is one record of either. -/
theorem Held.eq {r' : RoverRecord} {mission' : Int} {m' : MissionRecord}
    (h : f.Held rover r mission m) (h' : f.Held rover r' mission' m') :
    r' = r ∧ mission' = mission ∧ m' = m := by
  cases h.roverRecord.symm.trans h'.roverRecord
  cases h.engaged.mission?_eq.symm.trans h'.engaged.mission?_eq
  cases h.missionRecord.symm.trans h'.missionRecord
  exact ⟨rfl, rfl, rfl⟩

/-- A fleet after the missions of some rovers have been withdrawn, and nothing
    else. -/
structure Withdrawn (f : Fleet) (p : Int → Withdrawal → Prop) (g : Fleet) : Prop where
  held : ∀ {rover w}, p rover w → ∃ r mission m, f.Held rover r mission m
  /-- The rovers are free, and their missions have failed or are pending
      again. -/
  withdrawn : ∀ {rover w r mission m}, p rover w → f.Held rover r mission m →
    g.rovers.find? rover = some (released r) ∧
      g.missions.find? mission = some (w.record rover m)
  rovers : ∀ {rover}, (∀ w, ¬ p rover w) → g.rovers.find? rover = f.rovers.find? rover
  missions : ∀ {mission}, (∀ m rover w, f.missions.find? mission = some m →
    m.state.holder? = some rover → ¬ p rover w) →
      g.missions.find? mission = f.missions.find? mission
  nextMission : g.nextMission = f.nextMission

variable {p q : Int → Withdrawal → Prop}

theorem Withdrawn.refl (f : Fleet) : f.Withdrawn (fun _ _ => False) f :=
  ⟨False.elim, False.elim, fun _ => rfl, fun _ => rfl, rfl⟩

theorem Withdrawn.congr (h : f.Withdrawn p g) (hpq : ∀ rover w, p rover w ↔ q rover w) :
    f.Withdrawn q g := by
  have heq : p = q := funext (fun rover => funext (fun w => propext (hpq rover w)))
  exact heq ▸ h

/-- A rover that a mission holds is not out of order. -/
theorem Held.status_ne_fault (h : f.Held rover r mission m) : r.state.status ≠ .fault := by
  rcases h.engaged.statuses with ⟨hstatus, -⟩ | ⟨hstatus, -⟩ <;> simp [hstatus]

/-- A rover from which nothing has been withdrawn has its mission still. -/
theorem Withdrawn.held_of_not (h : f.Withdrawn p g) (hheld : f.Held rover r mission m)
    (hnone : ∀ w, ¬ p rover w) : g.Held rover r mission m := by
  refine hheld.congr (h.rovers hnone) (h.missions (fun m' rover' w hm' hholder => ?_))
  cases hheld.missionRecord.symm.trans hm'
  rw [hheld.engaged.holder?_eq] at hholder
  cases hholder
  exact hnone w

/-- One more mission is withdrawn. -/
theorem Withdrawn.put (h : f.Withdrawn p g) (hheld : f.Held rover r mission m)
    (hnone : ∀ w, ¬ p rover w) (w : Withdrawal) :
    f.Withdrawn (fun rover' w' => p rover' w' ∨ rover' = rover ∧ w' = w)
      (g.put rover (released r) mission (w.record rover m)) where
  held := by
    rintro rover' w' (hp | ⟨rfl, rfl⟩)
    · exact h.held hp
    · exact ⟨r, mission, m, hheld⟩
  withdrawn := by
    rintro rover' w' r' mission' m' (hp | ⟨rfl, rfl⟩) hheld'
    · have hrover : rover' ≠ rover := by
        rintro rfl
        exact hnone w' hp
      -- Another rover has another mission.
      have hmission : mission' ≠ mission := by
        rintro rfl
        cases hheld.missionRecord.symm.trans hheld'.missionRecord
        have hsame := hheld.engaged.holder?_eq.symm.trans hheld'.engaged.holder?_eq
        exact hrover (Option.some.inj hsame).symm
      rw [find?_put_rover_of_ne hrover, find?_put_mission_of_ne hmission]
      exact h.withdrawn hp hheld'
    · rcases hheld.eq hheld' with ⟨rfl, rfl, rfl⟩
      exact ⟨find?_put_rover, find?_put_mission⟩
  rovers := by
    intro rover' hnone'
    have hrover : rover' ≠ rover := fun heq => hnone' w (.inr ⟨heq, rfl⟩)
    rw [find?_put_rover_of_ne hrover]
    exact h.rovers (fun w' hp => hnone' w' (.inl hp))
  missions := by
    intro mission' hnone'
    have hmission : mission' ≠ mission := by
      rintro rfl
      exact hnone' m rover w hheld.missionRecord hheld.engaged.holder?_eq (.inr ⟨rfl, rfl⟩)
    rw [find?_put_mission_of_ne hmission]
    exact h.missions (fun m' rover' w' hm' hholder hp => hnone' m' rover' w' hm' hholder (.inl hp))
  nextMission := h.nextMission

/-! ### Rovers that are held, and rovers out of order -/

theorem mem_engaged_iff : rover ∈ f.engaged ↔
    ∃ r, f.rovers.find? rover = some r ∧ r.state.isEngaged = true := mem_roversIn_iff

theorem nodup_engaged (f : Fleet) : f.engaged.Nodup :=
  (f.pairwise_roversIn _).imp Int.ne_of_lt

/-- The rovers that are still held are those from which nothing was
    withdrawn. -/
theorem Withdrawn.mem_engaged_iff (h : f.Withdrawn p g) (hf : f.Consistent) :
    rover ∈ g.engaged ↔ (∃ r mission m, f.Held rover r mission m) ∧ ∀ w, ¬ p rover w := by
  rw [Fleet.mem_engaged_iff]
  constructor
  · rintro ⟨r, hr, hengaged⟩
    -- A rover from which something was withdrawn is free.
    have hnone : ∀ w, ¬ p rover w := by
      intro w hw
      rcases h.held hw with ⟨r₀, mission, m, hheld⟩
      cases hr.symm.trans (h.withdrawn hw hheld).1
      cases hengaged
    rw [h.rovers hnone] at hr
    rcases hf.rovers hr with hfree | ⟨mission, m, hheld⟩
    · rw [hfree.isEngaged_eq] at hengaged
      cases hengaged
    · exact ⟨⟨r, mission, m, hheld⟩, hnone⟩
  · rintro ⟨⟨r, mission, m, hheld⟩, hnone⟩
    have hg := h.held_of_not hheld hnone
    exact ⟨r, hg.roverRecord, hg.engaged.isEngaged⟩

theorem mem_recoverFaulted_iff {now cooldown : Nat} : rover ∈ (f.recoverFaulted now cooldown).1 ↔
    ∃ r, f.rovers.find? rover = some r ∧ r.state.status = .fault ∧
      cooldown ≤ now - r.state.faultSince?.getD 0 := by
  simp [recoverFaulted, Table.mem_entries_iff]

/-- No rover recovers while all have been out of order for too short a time. -/
theorem recoverFaulted_eq_self {now cooldown : Nat}
    (h : ∀ rover r, f.rovers.find? rover = some r → r.state.status = .fault →
      now - r.state.faultSince?.getD 0 < cooldown) : f.recoverFaulted now cooldown = ([], f) := by
  have hnone : (f.recoverFaulted now cooldown).1 = [] := by
    refine List.eq_nil_iff_forall_not_mem.2 (fun rover hrover => ?_)
    rcases mem_recoverFaulted_iff.1 hrover with ⟨r, hr, hfault, hcooldown⟩
    have := h rover r hr hfault
    omega
  have hsame : (f.recoverFaulted now cooldown).2.rovers = f.rovers := by
    refine Table.ext_find? (fun rover => ?_)
    rw [find?_recoverFaulted]
    cases hr : f.rovers.find? rover with
    | none => rfl
    | some r =>
        -- No record is changed, since none is out of order for so long.
        rw [Option.map_some, recovered, if_neg]
        rintro ⟨hfault, hcooldown⟩
        have := h rover r hr hfault
        omega
  have hfleet : (f.recoverFaulted now cooldown).2 =
      { f with rovers := (f.recoverFaulted now cooldown).2.rovers } := rfl
  rw [hsame] at hfleet
  exact Prod.ext hnone hfleet

theorem recovered_recovered (now cooldown : Nat) (r : RoverRecord) :
    recovered now cooldown (recovered now cooldown r) = recovered now cooldown r := by
  by_cases hrecovers : r.state.status = .fault ∧ cooldown ≤ now - r.state.faultSince?.getD 0
  · simp [recovered, hrecovers]
  · simp only [recovered, if_neg hrecovers]

/-- A rover that has recovered is not held, so one that is has not. -/
theorem isEngaged_of_recovered {now cooldown : Nat}
    (h : (recovered now cooldown r).state.isEngaged = true) : r.state.isEngaged = true := by
  rw [recovered] at h
  split at h
  · cases h
  · exact h

theorem recovered_released (now cooldown : Nat) (r : RoverRecord) :
    recovered now cooldown (released r) = released r := if_neg nofun

/-- Rovers out of order are not held, so nothing is withdrawn from them. -/
theorem Withdrawn.find?_fault (h : f.Withdrawn p g) (hfault : r.state.status = .fault) :
    g.rovers.find? rover = some r ↔ f.rovers.find? rover = some r := by
  by_cases hw : ∃ w, p rover w
  · rcases hw with ⟨w, hw⟩
    rcases h.held hw with ⟨r₀, mission, m, hheld⟩
    rw [(h.withdrawn hw hheld).1, hheld.roverRecord]
    constructor
    · rintro ⟨⟩
      cases hfault
    · rintro ⟨⟩
      exact absurd hfault hheld.status_ne_fault
  · rw [h.rovers (fun w hp => hw ⟨w, hp⟩)]

end Fleet

namespace Dispatcher

variable {π : Type} {limits : SweepLimits} {now : Nat} {f : Fleet}
  {p : Int → Fleet.Withdrawal → Prop}

/-! ### Sessions that have been silent for too long -/

/-- What is withdrawn since a session has been silent for too long. -/
def Silent (limits : SweepLimits) (now : Nat) (session : Int × Int × SessionStatus) (rover : Int)
    (w : Fleet.Withdrawal) : Prop :=
  finding limits now session.2.2 = .removeStale ∧ rover = session.1 ∧
    w = ⟨session.2.2.progressSeen, "session inactive"⟩

theorem fleet_sweepSession_of_ne (d : Dispatcher π) {session : Int × Int × SessionStatus}
    (h : finding limits now session.2.2 ≠ .removeStale) :
    (sweepSession limits now d session).fleet = d.fleet := by
  rw [sweepSession]
  split
  · rfl
  · rfl
  · rename_i hstale
    exact absurd hstale h

theorem fleet_sweepSession_stale {d : Dispatcher π} {session : Int × Int × SessionStatus}
    {r : RoverRecord} {m : MissionRecord} (h : finding limits now session.2.2 = .removeStale)
    (hheld : d.fleet.Held session.1 r session.2.1 m) :
    (sweepSession limits now d session).fleet =
      d.fleet.put session.1 (Fleet.released r) session.2.1 ((Fleet.Withdrawal.mk
        session.2.2.progressSeen "session inactive").record session.1 m) := by
  simp only [sweepSession, h, hheld.withdraw, Fleet.mission_withdrawal]
  rfl

/-- Looking at a session withdraws its mission if it has been silent for too
    long. -/
theorem withdrawn_sweepSession {d : Dispatcher π} (h : f.Withdrawn p d.fleet)
    {session : Int × Int × SessionStatus}
    (hheld : finding limits now session.2.2 = .removeStale →
      ∃ r m, f.Held session.1 r session.2.1 m) (hfresh : ∀ w, ¬ p session.1 w) :
    f.Withdrawn (fun rover w => p rover w ∨ Silent limits now session rover w)
      (sweepSession limits now d session).fleet := by
  by_cases hstale : finding limits now session.2.2 = .removeStale
  · rcases hheld hstale with ⟨r, m, hsession⟩
    rw [fleet_sweepSession_stale hstale (h.held_of_not hsession hfresh)]
    refine (h.put hsession hfresh _).congr (fun rover w => ?_)
    simp only [Silent, hstale, true_and]
  · rw [fleet_sweepSession_of_ne d hstale]
    exact h.congr (fun rover w => by simp only [Silent, hstale, false_and, or_false])

/-- Looking at the sessions one by one withdraws the missions of all that have
    been silent for too long. -/
theorem withdrawn_foldl_sweepSession (sessions : List (Int × Int × SessionStatus))
    {d : Dispatcher π} (h : f.Withdrawn p d.fleet)
    (hheld : ∀ x ∈ sessions, finding limits now x.2.2 = .removeStale →
      ∃ r m, f.Held x.1 r x.2.1 m)
    (hfresh : ∀ x ∈ sessions, ∀ w, ¬ p x.1 w)
    (hdistinct : sessions.Pairwise (fun x y => x.1 ≠ y.1)) :
    f.Withdrawn (fun rover w => p rover w ∨ ∃ x ∈ sessions, Silent limits now x rover w)
      (sessions.foldl (sweepSession limits now) d).fleet := by
  induction sessions generalizing d p with
  | nil => simpa using h
  | cons x sessions ih =>
      have hx := withdrawn_sweepSession h (hheld x List.mem_cons_self)
        (hfresh x List.mem_cons_self)
      have hrest := ih hx (fun y hy => hheld y (List.mem_cons_of_mem _ hy)) ?_ hdistinct.of_cons
      · exact hrest.congr (fun rover w => by simp [or_assoc])
      · -- A rover has one session, so nothing has been withdrawn from the later ones.
        rintro y hy w (hp | ⟨-, hrover, -⟩)
        · exact hfresh y (List.mem_cons_of_mem _ hy) w hp
        · exact List.rel_of_pairwise_cons hdistinct hy hrover.symm

/-! ### Rovers without a session -/

/-- What is withdrawn since a rover is held without a session. -/
def Orphaned (f : Fleet) (rover : Int) (w : Fleet.Withdrawal) : Prop :=
  ∃ r mission m, f.Held rover r mission m ∧
    w = ⟨decide (0 < m.reports), "session lost after progress"⟩

/-- A release of a rover that a mission holds. -/
def Released (f : Fleet) (rover : Int) (release : Release) : Prop :=
  ∃ r mission m, f.Held rover r mission m ∧
    release = ⟨rover, some mission, !decide (0 < m.reports)⟩

theorem orphaned_iff {rover mission : Int} {r : RoverRecord} {m : MissionRecord}
    (h : f.Held rover r mission m) (w : Fleet.Withdrawal) :
    Orphaned f rover w ↔ w = ⟨decide (0 < m.reports), "session lost after progress"⟩ := by
  refine ⟨?_, fun hw => ⟨r, mission, m, h, hw⟩⟩
  rintro ⟨r', mission', m', h', rfl⟩
  rw [(h.eq h').2.2]

theorem released_iff {rover mission : Int} {r : RoverRecord} {m : MissionRecord}
    (h : f.Held rover r mission m) (release : Release) :
    Released f rover release ↔ release = ⟨rover, some mission, !decide (0 < m.reports)⟩ := by
  refine ⟨?_, fun hrelease => ⟨r, mission, m, h, hrelease⟩⟩
  rintro ⟨r', mission', m', h', rfl⟩
  rw [(h.eq h').2.1, (h.eq h').2.2]

/-- Releasing some rovers withdraws their missions. -/
theorem withdrawn_foldl_releaseOne (rovers : List Int) (found : List Release × Fleet)
    (h : f.Withdrawn p found.2)
    (hheld : ∀ rover ∈ rovers, ∃ r mission m, f.Held rover r mission m)
    (hfresh : ∀ rover ∈ rovers, ∀ w, ¬ p rover w) (hdistinct : rovers.Nodup) :
    f.Withdrawn (fun rover w => p rover w ∨ rover ∈ rovers ∧ Orphaned f rover w)
        (rovers.foldl releaseOne found).2 ∧
      ∀ release, release ∈ (rovers.foldl releaseOne found).1 ↔
        release ∈ found.1 ∨ ∃ rover ∈ rovers, Released f rover release := by
  induction rovers generalizing found p with
  | nil => exact ⟨by simpa using h, by simp⟩
  | cons rover rovers ih =>
      rcases hheld rover List.mem_cons_self with ⟨r, mission, m, hrover⟩
      have hnow := h.held_of_not hrover (hfresh rover List.mem_cons_self)
      have hone : releaseOne found rover =
          (found.1 ++ [⟨rover, some mission, !decide (0 < m.reports)⟩],
            found.2.put rover (Fleet.released r) mission ((Fleet.Withdrawal.mk
              (decide (0 < m.reports)) "session lost after progress").record rover m)) := by
        simp only [releaseOne, hnow.releaseOrphan, Fleet.mission_withdrawal]
      have hput : f.Withdrawn (fun a w => p a w ∨ a = rover ∧ w = ⟨decide (0 < m.reports),
          "session lost after progress"⟩) (releaseOne found rover).2 := by
        rw [hone]
        exact h.put hrover (hfresh rover List.mem_cons_self) _
      rw [List.foldl_cons]
      have hrest := ih _ hput (fun a ha => hheld a (List.mem_cons_of_mem _ ha)) ?_
        hdistinct.of_cons
      · refine ⟨hrest.1.congr (fun a w => ?_), fun release => ?_⟩
        · by_cases ha : a = rover
          · subst ha
            simp [orphaned_iff hrover, (List.nodup_cons.1 hdistinct).1]
          · simp [ha]
        · rw [hrest.2, hone]
          simp [released_iff hrover, or_assoc]
      · -- The rovers are all different, so nothing has been withdrawn from the later ones.
        rintro a ha w (hp | ⟨rfl, -⟩)
        · exact hfresh a (List.mem_cons_of_mem _ ha) w hp
        · exact (List.nodup_cons.1 hdistinct).1 ha

/-! ### Sessions that are left -/

theorem finding_eq_keep_iff {status : SessionStatus} : finding limits now status = .keep ↔
    (status.terminal = true → status.sayingFarewell = true) ∧
      (status.terminal = false → now - status.lastActivity ≤ limits.inactivity) := by
  cases hterminal : status.terminal
  · by_cases hrecent : now - status.lastActivity ≤ limits.inactivity <;>
      simp [finding, hterminal, hrecent]
  · cases hfarewell : status.sayingFarewell <;> simp [finding, hterminal, hfarewell]

theorem finding_eq_removeStale_iff {status : SessionStatus} :
    finding limits now status = .removeStale ↔
      status.terminal = false ∧ limits.inactivity < now - status.lastActivity := by
  cases hterminal : status.terminal
  · by_cases hrecent : now - status.lastActivity ≤ limits.inactivity
    · simp [finding, hterminal, hrecent]
    · simp [finding, hterminal, hrecent, Nat.lt_of_not_le hrecent]
  · cases hfarewell : status.sayingFarewell <;> simp [finding, hterminal, hfarewell]

theorem finding_eq_removeEnded_iff {status : SessionStatus} :
    finding limits now status = .removeEnded ↔
      status.terminal = true ∧ status.sayingFarewell = false := by
  cases hterminal : status.terminal
  · by_cases hrecent : now - status.lastActivity ≤ limits.inactivity <;>
      simp [finding, hterminal, hrecent]
  · cases hfarewell : status.sayingFarewell <;> simp [finding, hterminal, hfarewell]

/-- The rovers of the sessions are all different. -/
theorem pairwise_sessions (r : Registry π) : r.sessions.Pairwise (fun x y => x.1 ≠ y.1) := by
  refine List.Pairwise.filterMap _ ?_ r.entries.sorted
  rintro ⟨rover, e⟩ ⟨rover', e'⟩ hlt x hx x' hx' heq
  rcases Option.map_eq_some_iff.1 hx with ⟨desk, -, rfl⟩
  rcases Option.map_eq_some_iff.1 hx' with ⟨desk', -, rfl⟩
  cases heq
  exact Table.compare_self_ne_lt _ hlt

theorem desks_foldl_sweepSession (sessions : List (Int × Int × SessionStatus))
    (d : Dispatcher π) :
    (sessions.foldl (sweepSession limits now) d).registry.desks = d.registry.desks := by
  induction sessions generalizing d with
  | nil => rfl
  | cons x sessions ih =>
      rw [List.foldl_cons, ih, registry_sweepSession]
      split
      · rfl
      · exact Registry.desks_remove ..

/-- A sweep leaves the sessions that are to be kept. -/
theorem mem_sessions_sweep {d : Dispatcher π} {x : Int × Int × SessionStatus} :
    x ∈ (d.sweep limits now).2.registry.sessions ↔
      x ∈ d.registry.sessions ∧ finding limits now x.2.2 = .keep := by
  rcases x with ⟨rover, mission, status⟩
  -- A sweep takes entries away and leaves the desks to those who sit there.
  have hdesks : (d.sweep limits now).2.registry.desks = d.registry.desks :=
    desks_foldl_sweepSession d.registry.sessions d
  simp only [Registry.mem_sessions_iff (r := (d.sweep limits now).2.registry), find?_sweep, hdesks]
  constructor
  · rintro ⟨e, desk, ⟨he, hkeep⟩, hdesk, rfl, rfl⟩
    have hsession : (rover, e.mission, desk.status) ∈ d.registry.sessions :=
      Registry.mem_sessions_iff.2 ⟨e, desk, he, hdesk, rfl, rfl⟩
    exact ⟨hsession, hkeep _ hsession⟩
  · rintro ⟨hsession, hkeep⟩
    rcases Registry.mem_sessions_iff.1 hsession with ⟨e, desk, he, hdesk, rfl, rfl⟩
    refine ⟨e, desk, ⟨he, fun status' hsession' => ?_⟩, hdesk, rfl, rfl⟩
    rwa [(Registry.eq_of_mem_sessions hsession hsession').2]

/-! ### Fleets and sessions in line -/

/-- Sessions and fleet are in line: there is no session to remove, every rover
    that is held has an entry, and no rover has been out of order for long
    enough. -/
structure InLine (limits : SweepLimits) (now : Nat) (d : Dispatcher π) : Prop where
  sessions : ∀ x ∈ d.registry.sessions, finding limits now x.2.2 = .keep
  engaged : ∀ rover r, d.fleet.rovers.find? rover = some r → r.state.isEngaged = true →
    d.registry.contains rover = true
  faults : ∀ rover r, d.fleet.rovers.find? rover = some r → r.state.status = .fault →
    now - r.state.faultSince?.getD 0 < limits.cooldown

/-- Where everything is in line, a sweep finds nothing and changes nothing. -/
theorem InLine.sweep_eq {d : Dispatcher π} (h : d.InLine limits now) :
    d.sweep limits now = (⟨[], [], [], []⟩, d) := by
  -- Each of the rules finds nothing: no session to remove,
  have hkept : d.registry.sessions.foldl (sweepSession limits now) d = d := by
    refine List.foldlRecOn d.registry.sessions _ (motive := fun d' => d' = d) rfl ?_
    rintro _ rfl x hx
    simp only [sweepSession, h.sessions x hx]
  -- no rover without a session,
  have horphans : d.releaseOrphans = ([], d.fleet) := by
    have hnone : d.fleet.engaged.filter (fun rover => !d.registry.contains rover) = [] := by
      refine List.filter_eq_nil_iff.2 (fun rover hrover => ?_)
      rcases Fleet.mem_engaged_iff.1 hrover with ⟨r, hr, hengaged⟩
      simp [h.engaged rover r hr hengaged]
    rw [releaseOrphans, hnone, List.foldl_nil]
  -- and nothing to report of either.
  have hnone (found : Finding) (hfound : found ≠ .keep) :
      roversWith limits now found d.registry.sessions = [] := by
    rw [roversWith, List.filter_eq_nil_iff.2, List.map_nil]
    intro x hx
    simp [h.sessions x hx, Ne.symm hfound]
  rw [sweep]
  simp only [hkept, horphans, Fleet.recoverFaulted_eq_self h.faults,
    hnone .removeStale (by decide), hnone .removeEnded (by decide)]

/-- A rover is left without a session: a mission holds it, its session has not
    been silent for too long, and its entry is not there any more. -/
structure Abandoned (limits : SweepLimits) (now : Nat) (d : Dispatcher π) (rover : Int) : Prop where
  held : ∃ r mission m, d.fleet.Held rover r mission m
  fresh : ∀ w, ¬ ∃ x ∈ d.registry.sessions, Silent limits now x rover w
  alone : (d.sweep limits now).2.registry.contains rover = false

/-- What a sweep withdraws. -/
def Withdraws (limits : SweepLimits) (now : Nat) (d : Dispatcher π) (rover : Int)
    (w : Fleet.Withdrawal) : Prop :=
  (∃ x ∈ d.registry.sessions, Silent limits now x rover w) ∨
    d.Abandoned limits now rover ∧ Orphaned d.fleet rover w

/-- Every session that has not ended is about a mission that its rover holds. -/
def Served (d : Dispatcher π) : Prop :=
  ∀ rover mission status, (rover, mission, status) ∈ d.registry.sessions →
    status.terminal = false → ∃ m, d.fleet.missions.find? mission = some m ∧
      m.state.holder? = some rover

/-- The fleet `g` is what a sweep has before rovers recover: it has withdrawn
    some missions and done nothing else. -/
structure Swept (limits : SweepLimits) (now : Nat) (d : Dispatcher π) (g : Fleet) : Prop where
  withdrawn : d.fleet.Withdrawn (d.Withdraws limits now) g
  fleet : (d.sweep limits now).2.fleet = (g.recoverFaulted now limits.cooldown).2
  recovered : (d.sweep limits now).1.recovered = (g.recoverFaulted now limits.cooldown).1
  orphans : ∀ release, release ∈ (d.sweep limits now).1.orphans ↔
    ∃ rover, d.Abandoned limits now rover ∧ Released d.fleet rover release

theorem exists_swept (limits : SweepLimits) (now : Nat) {d : Dispatcher π}
    (hf : d.fleet.Consistent) (hserved : d.Served) : ∃ g, d.Swept limits now g := by
  have hsilent : d.fleet.Withdrawn (fun rover w => ∃ x ∈ d.registry.sessions,
      Silent limits now x rover w) (d.registry.sessions.foldl (sweepSession limits now) d).fleet := by
    refine (withdrawn_foldl_sweepSession d.registry.sessions (.refl d.fleet) ?_ (fun _ _ _ => id)
      (pairwise_sessions _)).congr (fun rover w => by rw [false_or])
    rintro ⟨rover, mission, status⟩ hx hstale
    rcases hserved rover mission status hx (finding_eq_removeStale_iff.1 hstale).1 with
      ⟨m, hm, hholder⟩
    rcases hf.exists_held hm hholder with ⟨r, hheld⟩
    exact ⟨r, m, hheld⟩
  -- Who is still held then and has no entry is left without a session.
  have hmem : ∀ rover, rover ∈ (d.registry.sessions.foldl (sweepSession limits now)
      d).fleet.engaged.filter (fun rover => !(d.registry.sessions.foldl (sweepSession limits now)
        d).registry.contains rover) ↔ d.Abandoned limits now rover := by
    intro rover
    rw [List.mem_filter, hsilent.mem_engaged_iff hf, Bool.not_eq_true']
    exact ⟨fun h => ⟨h.1.1, h.1.2, h.2⟩, fun h => ⟨⟨h.held, h.fresh⟩, h.alone⟩⟩
  have hreleased := withdrawn_foldl_releaseOne _ ([], _) hsilent
    (fun rover hrover => ((hmem rover).1 hrover).held)
    (fun rover hrover => ((hmem rover).1 hrover).fresh)
    ((Fleet.nodup_engaged _).filter _)
  refine ⟨_, hreleased.1.congr (fun rover w => ?_), rfl, rfl, fun release => ?_⟩
  · rw [hmem, Withdraws]
  · refine (hreleased.2 release).trans ?_
    simp only [List.not_mem_nil, false_or, hmem]

section Swept

variable {d : Dispatcher π} {g : Fleet} {rover mission : Int} {r : RoverRecord}
  {m : MissionRecord}

theorem Swept.find?_rovers (h : d.Swept limits now g) :
    (d.sweep limits now).2.fleet.rovers.find? rover =
      (g.rovers.find? rover).map (Fleet.recovered now limits.cooldown) := by
  rw [h.fleet, Fleet.find?_recoverFaulted]

theorem Swept.missions (h : d.Swept limits now g) :
    (d.sweep limits now).2.fleet.missions = g.missions := by
  rw [h.fleet]
  rfl

/-- The rover of a mission that was withdrawn is free, and recovering does
    nothing to it. -/
theorem Swept.find?_withdrawn {w : Fleet.Withdrawal} (h : d.Swept limits now g)
    (hw : d.Withdraws limits now rover w) (hheld : d.fleet.Held rover r mission m) :
    (d.sweep limits now).2.fleet.rovers.find? rover = some (Fleet.released r) ∧
      (d.sweep limits now).2.fleet.missions.find? mission = some (w.record rover m) := by
  rcases h.withdrawn.withdrawn hw hheld with ⟨hrover, hmission⟩
  rw [h.find?_rovers, hrover, h.missions, Option.map_some, Fleet.recovered_released]
  exact ⟨rfl, hmission⟩

/-- No mission is withdrawn from a rover that is out of order, so those that
    recover can be told from the fleet before the sweep. -/
theorem Swept.mem_recovered_iff (h : d.Swept limits now g) :
    rover ∈ (d.sweep limits now).1.recovered ↔ ∃ r, d.fleet.rovers.find? rover = some r ∧
      r.state.status = .fault ∧ limits.cooldown ≤ now - r.state.faultSince?.getD 0 := by
  rw [h.recovered, Fleet.mem_recoverFaulted_iff]
  exact exists_congr (fun r => and_congr_left (fun hfault => h.withdrawn.find?_fault hfault.1))

end Swept

/-- A sweep brings everything in line. -/
theorem inLine_sweep (limits : SweepLimits) (now : Nat) {d : Dispatcher π}
    (hf : d.fleet.Consistent) (hserved : d.Served) :
    (d.sweep limits now).2.InLine limits now := by
  rcases exists_swept limits now hf hserved with ⟨g, hg⟩
  refine ⟨fun x hx => (mem_sessions_sweep.1 hx).2, fun rover r hr hengaged => ?_,
    fun rover r hr hfault => ?_⟩
  · rw [hg.find?_rovers] at hr
    rcases Option.map_eq_some_iff.1 hr with ⟨r₀, hr₀, rfl⟩
    have hmem := Fleet.mem_engaged_iff.2 ⟨r₀, hr₀, Fleet.isEngaged_of_recovered hengaged⟩
    rcases (hg.withdrawn.mem_engaged_iff hf).1 hmem with ⟨⟨r, mission, m, hheld⟩, hnone⟩
    -- Without an entry its mission would have been withdrawn.
    refine eq_true_of_ne_false (fun halone => ?_)
    exact hnone _ (.inr ⟨⟨⟨r, mission, m, hheld⟩, fun w hw => hnone w (.inl hw), halone⟩,
      r, mission, m, hheld, rfl⟩)
  · rw [hg.find?_rovers] at hr
    rcases Option.map_eq_some_iff.1 hr with ⟨r₀, -, rfl⟩
    refine Nat.lt_of_not_le (fun hcooldown => ?_)
    -- Were it out of order for long enough, it would recover once more.
    have htwice := Fleet.recovered_recovered now limits.cooldown r₀
    rw [Fleet.recovered, if_pos ⟨hfault, hcooldown⟩] at htwice
    cases (congrArg (fun r => r.state.status) htwice).trans hfault

/-- What a sweep makes of a fleet and its sessions, and what it reports. -/
structure Reconciles (limits : SweepLimits) (now : Nat) (d : Dispatcher π) (report : SweepReport)
    (d' : Dispatcher π) : Prop where
  /-- The sessions that have been silent for too long are reported. -/
  stale_iff : ∀ rover, rover ∈ report.stale ↔ ∃ mission status,
    (rover, mission, status) ∈ d.registry.sessions ∧ status.terminal = false ∧
      limits.inactivity < now - status.lastActivity
  /-- So are those that have ended and say no farewell. -/
  terminal_iff : ∀ rover, rover ∈ report.terminal ↔ ∃ mission status,
    (rover, mission, status) ∈ d.registry.sessions ∧ status.terminal = true ∧
      status.sayingFarewell = false
  /-- So are the rovers that are still held and have no entry left. -/
  orphans_iff : ∀ release, release ∈ report.orphans ↔ ∃ rover r mission m,
    d.fleet.Held rover r mission m ∧ rover ∉ report.stale ∧
      d'.registry.contains rover = false ∧
        release = ⟨rover, some mission, !decide (0 < m.reports)⟩
  /-- So are the rovers that have been out of order for long enough. -/
  recovered_iff : ∀ rover, rover ∈ report.recovered ↔ ∃ r,
    d.fleet.rovers.find? rover = some r ∧ r.state.status = .fault ∧
      limits.cooldown ≤ now - r.state.faultSince?.getD 0
  /-- The entries of the sessions reported are gone, and the others are there. -/
  entries : ∀ rover e, d'.registry.entries.find? rover = some e ↔
    d.registry.entries.find? rover = some e ∧ rover ∉ report.stale ∧ rover ∉ report.terminal
  /-- No session is left that has ended and says no farewell, and none that has
      been silent for too long. -/
  sessions : ∀ rover mission status, (rover, mission, status) ∈ d'.registry.sessions →
    (status.terminal = true → status.sayingFarewell = true) ∧
      (status.terminal = false → now - status.lastActivity ≤ limits.inactivity)
  /-- Every rover that is held has an entry. -/
  engaged : ∀ rover r, d'.fleet.rovers.find? rover = some r → r.state.isEngaged = true →
    d'.registry.contains rover = true
  /-- No rover has been out of order for long enough. -/
  faults : ∀ rover r, d'.fleet.rovers.find? rover = some r → r.state.status = .fault →
    now - r.state.faultSince?.getD 0 < limits.cooldown
  /-- The mission of a session that has been silent for too long has failed if
      progress was seen, and is pending again otherwise. Its rover is free. -/
  silent : ∀ rover mission status, (rover, mission, status) ∈ d.registry.sessions →
    rover ∈ report.stale → ∃ r m, d.fleet.Held rover r mission m ∧
      d'.fleet.rovers.find? rover = some (Fleet.released r) ∧
      d'.fleet.missions.find? mission = some (if status.progressSeen
        then { m with state := .failed rover ⟨none, "session inactive"⟩ }
        else Fleet.reverted m)
  /-- The mission of a rover that is still held and has no entry left has failed
      if progress was reported, and is pending again otherwise. Its rover is
      free. -/
  orphaned : ∀ rover r mission m, d.fleet.Held rover r mission m → rover ∉ report.stale →
    d'.registry.contains rover = false →
      d'.fleet.rovers.find? rover = some (Fleet.released r) ∧
      d'.fleet.missions.find? mission = some (if 0 < m.reports
        then { m with state := .failed rover ⟨none, "session lost after progress"⟩ }
        else Fleet.reverted m)
  /-- All other rovers stay as they are, but for those that recover. -/
  rovers : ∀ rover, rover ∉ report.stale → (∀ release ∈ report.orphans, release.rover ≠ rover) →
    d'.fleet.rovers.find? rover = (d.fleet.rovers.find? rover).map (fun r =>
      if rover ∈ report.recovered
      then { r with state.status := .available, state.faultSince? := none } else r)
  /-- All other missions stay as they are. -/
  missions : ∀ mission, (∀ m rover, d.fleet.missions.find? mission = some m →
    m.state.holder? = some rover → rover ∉ report.stale ∧
      ∀ release ∈ report.orphans, release.rover ≠ rover) →
    d'.fleet.missions.find? mission = d.fleet.missions.find? mission
  nextMission : d'.fleet.nextMission = d.fleet.nextMission
  /-- One more sweep at the same time finds nothing and changes nothing. -/
  again : d'.sweep limits now = (⟨[], [], [], []⟩, d')

/-! ### One sweep -/

theorem mem_stale_iff {d : Dispatcher π} {rover : Int} :
    rover ∈ (d.sweep limits now).1.stale ↔ ∃ mission status,
      (rover, mission, status) ∈ d.registry.sessions ∧ finding limits now status = .removeStale := by
  simp [sweep, roversWith]

theorem mem_terminal_iff {d : Dispatcher π} {rover : Int} :
    rover ∈ (d.sweep limits now).1.terminal ↔ ∃ mission status,
      (rover, mission, status) ∈ d.registry.sessions ∧ finding limits now status = .removeEnded := by
  simp [sweep, roversWith]

theorem not_mem_stale_iff {d : Dispatcher π} {rover : Int} :
    rover ∉ (d.sweep limits now).1.stale ↔
      ∀ w, ¬ ∃ x ∈ d.registry.sessions, Silent limits now x rover w := by
  rw [mem_stale_iff]
  constructor
  · rintro h w ⟨⟨rover', mission, status⟩, hx, hstale, rfl, -⟩
    exact h ⟨mission, status, hx, hstale⟩
  · rintro h ⟨mission, status, hx, hstale⟩
    exact h _ ⟨_, hx, hstale, rfl, rfl⟩

/-- The entries that a sweep takes away are those that it reports. -/
theorem find?_sweep_iff {d : Dispatcher π} {rover : Int} {e : Entry} :
    (d.sweep limits now).2.registry.entries.find? rover = some e ↔
      d.registry.entries.find? rover = some e ∧ rover ∉ (d.sweep limits now).1.stale ∧
        rover ∉ (d.sweep limits now).1.terminal := by
  rw [find?_sweep, mem_stale_iff, mem_terminal_iff]
  refine and_congr_right (fun he => ?_)
  -- The session of an entry is about the mission of the entry.
  have hmission : ∀ {mission status}, (rover, mission, status) ∈ d.registry.sessions →
      mission = e.mission := by
    intro mission status hx
    rcases Registry.mem_sessions_iff.1 hx with ⟨e', desk, he', -, rfl, -⟩
    rw [Option.some.inj (he'.symm.trans he)]
  constructor
  · intro hkeep
    constructor
    · rintro ⟨mission, status, hx, hfinding⟩
      cases (hkeep status (hmission hx ▸ hx)).symm.trans hfinding
    · rintro ⟨mission, status, hx, hfinding⟩
      cases (hkeep status (hmission hx ▸ hx)).symm.trans hfinding
  · rintro ⟨hstale, hterminal⟩ status hx
    cases hfinding : finding limits now status with
    | keep => rfl
    | removeStale => exact absurd ⟨_, status, hx, hfinding⟩ hstale
    | removeEnded => exact absurd ⟨_, status, hx, hfinding⟩ hterminal

section Swept

variable {d : Dispatcher π} {g : Fleet} {rover mission : Int} {r : RoverRecord}
  {m : MissionRecord}

theorem Swept.mem_orphans_iff (h : d.Swept limits now g) {release : Release} :
    release ∈ (d.sweep limits now).1.orphans ↔ ∃ rover r mission m,
      d.fleet.Held rover r mission m ∧ rover ∉ (d.sweep limits now).1.stale ∧
        (d.sweep limits now).2.registry.contains rover = false ∧
          release = ⟨rover, some mission, !decide (0 < m.reports)⟩ := by
  rw [h.orphans]
  constructor
  · rintro ⟨rover, habandoned, r, mission, m, hheld, rfl⟩
    exact ⟨rover, r, mission, m, hheld, not_mem_stale_iff.2 habandoned.fresh, habandoned.alone,
      rfl⟩
  · rintro ⟨rover, r, mission, m, hheld, hstale, halone, rfl⟩
    exact ⟨rover, ⟨⟨r, mission, m, hheld⟩, not_mem_stale_iff.1 hstale, halone⟩,
      r, mission, m, hheld, rfl⟩

/-- Nothing is withdrawn from a rover that is reported neither as silent nor as
    released. -/
theorem Swept.not_withdraws (h : d.Swept limits now g)
    (hstale : rover ∉ (d.sweep limits now).1.stale)
    (hreleases : ∀ release ∈ (d.sweep limits now).1.orphans, release.rover ≠ rover)
    (w : Fleet.Withdrawal) : ¬ d.Withdraws limits now rover w := by
  rintro (hsilent | ⟨habandoned, -⟩)
  · exact not_mem_stale_iff.1 hstale w hsilent
  · rcases habandoned.held with ⟨r, mission, m, hheld⟩
    exact hreleases _ ((h.orphans _).2 ⟨rover, habandoned, r, mission, m, hheld, rfl⟩) rfl

/-- The mission of a session that is reported as silent is withdrawn. -/
theorem Swept.find?_stale {status : SessionStatus} (h : d.Swept limits now g)
    (hf : d.fleet.Consistent) (hserved : d.Served)
    (hx : (rover, mission, status) ∈ d.registry.sessions)
    (hstale : rover ∈ (d.sweep limits now).1.stale) :
    ∃ r m, d.fleet.Held rover r mission m ∧
      (d.sweep limits now).2.fleet.rovers.find? rover = some (Fleet.released r) ∧
      (d.sweep limits now).2.fleet.missions.find? mission = some (if status.progressSeen
        then { m with state := .failed rover ⟨none, "session inactive"⟩ }
        else Fleet.reverted m) := by
  rcases mem_stale_iff.1 hstale with ⟨mission', status', hx', hfinding⟩
  -- A rover has one session only, so it is this one that is silent.
  rcases Registry.eq_of_mem_sessions hx hx' with ⟨rfl, rfl⟩
  rcases hserved rover _ _ hx (finding_eq_removeStale_iff.1 hfinding).1 with ⟨m, hm, hholder⟩
  rcases hf.exists_held hm hholder with ⟨r, hheld⟩
  exact ⟨r, m, hheld, h.find?_withdrawn (.inl ⟨_, hx, hfinding, rfl, rfl⟩) hheld⟩

/-- So is the mission of a rover that is still held and has no entry left. -/
theorem Swept.find?_orphaned (h : d.Swept limits now g) (hheld : d.fleet.Held rover r mission m)
    (hstale : rover ∉ (d.sweep limits now).1.stale)
    (halone : (d.sweep limits now).2.registry.contains rover = false) :
    (d.sweep limits now).2.fleet.rovers.find? rover = some (Fleet.released r) ∧
      (d.sweep limits now).2.fleet.missions.find? mission = some (if 0 < m.reports
        then { m with state := .failed rover ⟨none, "session lost after progress"⟩ }
        else Fleet.reverted m) := by
  have habandoned : d.Abandoned limits now rover :=
    ⟨⟨r, mission, m, hheld⟩, not_mem_stale_iff.1 hstale, halone⟩
  have hboth := h.find?_withdrawn (.inr ⟨habandoned, r, mission, m, hheld, rfl⟩) hheld
  simpa only [Fleet.Withdrawal.record, decide_eq_true_eq] using hboth

/-- What becomes of a rover from which nothing is withdrawn: it recovers exactly
    if it is reported. -/
theorem Swept.find?_other (h : d.Swept limits now g)
    (hother : ∀ w, ¬ d.Withdraws limits now rover w) :
    (d.sweep limits now).2.fleet.rovers.find? rover = (d.fleet.rovers.find? rover).map (fun r =>
      if rover ∈ (d.sweep limits now).1.recovered
      then { r with state.status := .available, state.faultSince? := none } else r) := by
  rw [h.find?_rovers, h.withdrawn.rovers hother]
  refine Option.map_congr (fun r hr => ?_)
  have hiff : rover ∈ (d.sweep limits now).1.recovered ↔
      r.state.status = .fault ∧ limits.cooldown ≤ now - r.state.faultSince?.getD 0 := by
    rw [h.mem_recovered_iff]
    constructor
    · rintro ⟨r', hr', hfault⟩
      cases hr.symm.trans hr'
      exact hfault
    · exact fun hfault => ⟨r, hr, hfault⟩
  simp only [Fleet.recovered, hiff]

end Swept

/-- A sweep does what it is to do and reports it. -/
theorem reconciles_sweep (limits : SweepLimits) (now : Nat) {d : Dispatcher π}
    (hf : d.fleet.Consistent) (hserved : d.Served) :
    Reconciles limits now d (d.sweep limits now).1 (d.sweep limits now).2 := by
  rcases exists_swept limits now hf hserved with ⟨g, hg⟩
  have hinLine := inLine_sweep limits now hf hserved
  constructor
  case stale_iff => simp only [mem_stale_iff, finding_eq_removeStale_iff, implies_true]
  case terminal_iff => simp only [mem_terminal_iff, finding_eq_removeEnded_iff, implies_true]
  case orphans_iff => exact fun release => hg.mem_orphans_iff
  case recovered_iff => exact fun rover => hg.mem_recovered_iff
  case entries => exact fun rover e => find?_sweep_iff
  case sessions =>
    intro rover mission status hx
    exact finding_eq_keep_iff.1 (hinLine.sessions _ hx)
  case engaged => exact hinLine.engaged
  case faults => exact hinLine.faults
  case silent => exact fun rover mission status hx hstale => hg.find?_stale hf hserved hx hstale
  case orphaned =>
    exact fun rover r mission m hheld hstale halone => hg.find?_orphaned hheld hstale halone
  case rovers =>
    exact fun rover hstale hreleases => hg.find?_other (hg.not_withdraws hstale hreleases)
  case missions =>
    intro mission hothers
    rw [hg.missions]
    refine hg.withdrawn.missions (fun m rover w hm hholder => ?_)
    -- Only through its holder could the mission have been withdrawn.
    rcases hothers m rover hm hholder with ⟨hstale, hreleases⟩
    exact hg.not_withdraws hstale hreleases w
  case nextMission =>
    rw [hg.fleet]
    exact hg.withdrawn.nextMission
  case again => exact hinLine.sweep_eq

/-- Take any fleet and any sessions such that every session that has not ended is
    about a mission that its rover holds. Then a sweep brings sessions and fleet
    in line, withdraws the missions of silent sessions and of rovers without a
    session as it should, lets rovers recover, changes nothing else, and reports
    what it has done. One more sweep at the same time finds nothing to do. -/
theorem sweep_reconciles (ops : List Fleet.Operation) (registry : Registry π)
    (limits : SweepLimits) (now : Nat)
    (hserved : Served ⟨Fleet.empty.performAll ops, registry⟩) :
    let d : Dispatcher π := ⟨Fleet.empty.performAll ops, registry⟩
    Reconciles limits now d (d.sweep limits now).1 (d.sweep limits now).2 :=
  reconciles_sweep limits now (Fleet.consistent_empty.performAll ops) hserved

/-- The session of the first rover has been silent for too long, that of the
    second one has not, the third rover has no session, and the fourth one has
    just broken down while its session is still there. -/
theorem sweep_reconciles_four :
    let draft : Draft := ⟨.zero, .zero, .zero, .zero, "scan", 60, 30, none, 1⟩
    let e : ErrorReport := ⟨4, .batteryLow, "low", .two, .two, .zero, .zero, 0⟩
    let f := Fleet.empty.performAll [.register 1 none, .register 2 none, .register 3 none,
      .register 4 none, .submit draft 0, .submit draft 0, .submit draft 0, .submit draft 0,
      .assign 1 1, .assign 2 2, .assign 3 3, .assign 4 4, .update 4 (.fail e 0)]
    let registry : Registry Unit :=
      ⟨.ofList [(1, ⟨1, 0⟩), (2, ⟨2, 1⟩), (4, ⟨4, 2⟩)],
        .ofList [(0, ⟨.start 0, [], true⟩), (1, ⟨.start 100, [], true⟩),
          (2, ⟨⟨0, true, false, false⟩, [], false⟩)], 3⟩
    let d : Dispatcher Unit := ⟨f, registry⟩
    let limits : SweepLimits := ⟨120000, 60000⟩
    let report := (d.sweep limits 120050).1
    d.Served ∧ report = ⟨[1], [4], [⟨3, some 3, true⟩], [4]⟩ ∧
      Reconciles limits 120050 d report (d.sweep limits 120050).2 := by
  intro draft e f registry d limits report
  have hsessions : registry.sessions = [(1, 1, .start 0), (2, 2, .start 100),
      (4, 4, ⟨0, true, false, false⟩)] := by decide +kernel
  have hholders : (f.missions.find? 1).map (·.state.holder?) = some (some 1) ∧
      (f.missions.find? 2).map (·.state.holder?) = some (some 2) := by decide +kernel
  have hserved : d.Served := by
    intro rover mission status hx hgoing
    replace hx : (rover, mission, status) ∈ registry.sessions := hx
    rw [hsessions] at hx
    simp only [List.mem_cons, Prod.mk.injEq, List.not_mem_nil, or_false] at hx
    rcases hx with ⟨rfl, rfl, -⟩ | ⟨rfl, rfl, -⟩ | ⟨-, -, rfl⟩
    · exact Option.map_eq_some_iff.1 hholders.1
    · exact Option.map_eq_some_iff.1 hholders.2
    · cases hgoing
  exact ⟨hserved, by decide +kernel, sweep_reconciles _ registry limits 120050 hserved⟩

end Dispatcher

end RoverDispatch
