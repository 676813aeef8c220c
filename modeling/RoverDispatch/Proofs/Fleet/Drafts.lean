import Mathlib.Data.List.DropRight
import RoverDispatch.Fleet.Basic

/-!
# Drafts That Become Missions

What can be said of a mission because its draft had no defect.

Sessions and messages rely on bounds that nobody checks again: every mission has
a priority from one to five, a bounded area, a task that says something, and
times that are positive and not too long. The first three are what a draft is
refused for. The times are never a reason to refuse it, since they are replaced
where they make no sense.

A draft is checked twice, before it gets a number and once it has one. The
number is used up in between, so it matters that both checks agree.

## Main definitions

* `Mission.Admissible`: The bounds of a mission.

## Theorems

* `Text.trim_eq_nil_iff`: Trimming leaves nothing of blanks only.
* `Draft.defect?_eq_none_iff`: What a draft without defects is like.
* `Draft.admissible_mission`: What it becomes.
* `Fleet.intake_eq`: Both checks of a draft agree.
-/

namespace RoverDispatch

/-- Trimming leaves nothing exactly of a text that is all blanks. -/
theorem Text.trim_eq_nil_iff {cs : List Char} : trim cs = [] ↔ cs.all isBlank = true := by
  -- Behind the blanks at the beginning, blanks only means nothing.
  have hbehind : trim cs = [] ↔ ∀ c ∈ cs.dropWhile isBlank, isBlank c = true :=
    List.rdropWhile_eq_nil_iff
  rw [hbehind, ← List.dropWhile_eq_nil_iff, List.dropWhile_idempotent, List.dropWhile_eq_nil_iff,
    List.all_eq_true]

/-- The bounds of a mission. -/
structure Mission.Admissible (m : Mission) : Prop where
  priority : 1 ≤ m.priority ∧ m.priority ≤ 5
  area : m.x1.isFinite = true ∧ m.y1.isFinite = true ∧ m.x2.isFinite = true ∧
    m.y2.isFinite = true
  task : Text.trim m.task.toList ≠ []
  /-- A mission takes a week at most. -/
  duration : 0 < m.duration ∧ m.duration ≤ 604800
  /-- Progress is reported every hour at least. -/
  updateInterval : 0 < m.updateInterval ∧ m.updateInterval ≤ 3600

namespace Draft

variable {d : Draft} {id now : Int} {m : Mission}

/-- What a draft without defects is like. -/
theorem defect?_eq_none_iff : d.defect? = none ↔
    (1 ≤ d.priority ∧ d.priority ≤ 5) ∧ d.hasArea = true ∧ Text.isBlankText d.task = false := by
  rw [defect?]
  by_cases hpriority : 1 ≤ d.priority ∧ d.priority ≤ 5
  · cases d.hasArea <;> cases Text.isBlankText d.task <;> simp [hpriority]
  · simp [hpriority]

/-- A time that is replaced where it makes no sense, and cut where it is too
    long. -/
theorem bounds_positiveOr {usual limit : Int} (husual : 0 < usual) (hlimit : 0 < limit) (n : Int) :
    0 < min limit (positiveOr usual n) ∧ min limit (positiveOr usual n) ≤ limit := by
  rw [positiveOr]
  split <;> omega

/-- A draft without defects becomes a mission within the bounds. -/
theorem admissible_mission (h : d.defect? = none) (id now : Int) : (d.mission id now).Admissible := by
  rcases defect?_eq_none_iff.1 h with ⟨hpriority, harea, htask⟩
  simp only [hasArea, Bool.and_eq_true] at harea
  refine ⟨hpriority, ⟨harea.1.1.1, harea.1.1.2, harea.1.2, harea.2⟩, fun hblank => ?_,
    bounds_positiveOr (by decide) (by decide) _, bounds_positiveOr (by decide) (by decide) _⟩
  have hall : Text.isBlankText d.task = true := Text.trim_eq_nil_iff.1 hblank
  rw [htask] at hall
  cases hall

/-- A draft becomes a mission exactly if it has no defect. -/
theorem toMission_eq_ok_iff :
    d.toMission id now = .ok m ↔ d.defect? = none ∧ d.mission id now = m := by
  rw [toMission]
  split <;> simp [*]

end Draft

namespace Fleet

/-- The second check of a draft finds what the first one has found: it is
    refused, and nothing changes, or it becomes the next mission. -/
theorem intake_eq (f : Fleet) (d : Draft) (now : Int) :
    f.intake d now = match d.defect? with
      | some defect => (.error (.invalidMission defect), f)
      | none => (.ok f.nextMission, { f with
          missions := f.missions.insert f.nextMission (.pending (d.mission f.nextMission now))
          nextMission := f.nextMission + 1 }) := by
  rw [intake]
  cases hdefect : d.defect? with
  | some defect => rfl
  | none => simp only [Draft.toMission, hdefect]

/-- A draft that is handed in is refused or becomes the next mission. -/
theorem submit_eq (f : Fleet) (d : Draft) (now : Int) :
    f.submit d now = match d.toMission f.nextMission now with
      | .error defect => .error (.invalidMission defect)
      | .ok mission => .ok (f.nextMission, { f with
          missions := f.missions.insert f.nextMission (.pending mission)
          nextMission := f.nextMission + 1 }) := by
  rw [submit, intake_eq, Draft.toMission]
  cases d.defect? <;> rfl

end Fleet

end RoverDispatch
