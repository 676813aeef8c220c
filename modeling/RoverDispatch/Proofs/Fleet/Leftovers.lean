import Mathlib.Data.List.Induction
import RoverDispatch.Proofs.Fleet.Records

/-!
# Leftovers

What a rover that can be assigned a mission still shows of earlier ones.

Its state shows nothing. Nor does its progress as long as the rover comes
straight from a mission, since whoever frees it sets the progress back. But a
rover that breaks down keeps the progress at which it did, and when it recovers
only its state is written. So the progress outlives the breakdown, until the
rover is asked for again.

`Fleet.Bears` tells from the operations alone whether this is the case. It does
not mention what the rover shows, so the result is not about progress that
happens to be there, but about all that can be there and where it is from.

## Main definitions

* `Fleet.Bears`: A rover has broken down and has not been asked for since.
* `RoverRecord.Marked`: A rover is out of order, or it is available and shows
  progress.

## Theorems

* `Fleet.Treats.of_isFree`: A rover that is not asked for keeps its progress.
* `Fleet.Treats.of_marked`: A rover gets marked by breaking down, if at all.
* `Fleet.Bears.progress_eq`: A rover that broke down shows its progress.
* `Fleet.exists_bears`: A rover that is marked has broken down.
* `Fleet.available_leftovers`: What an available rover shows of earlier
  missions.
-/

namespace RoverDispatch

/-- The rover is out of order, or it is available and shows progress. -/
def RoverRecord.Marked (r : RoverRecord) : Prop :=
  r.state.status = .fault ∨ r.state.status = .available ∧ r.progress ≠ .zero

namespace Fleet

variable {f : Fleet} {rover mission : Int} {r r' : RoverRecord} {m : MissionRecord}
  {op : Operation}

/-! ### What one operation leaves -/

/-- A rover that a mission holds is not free. -/
theorem Held.not_isFree (h : f.Held rover r mission m) : ¬ r.state.IsFree := by
  intro hfree
  have hnone := hfree.mission?_eq
  rw [h.engaged.mission?_eq] at hnone
  cases hnone

/-- A rover that is free stays so and keeps its progress if it is not asked
    for. -/
theorem Treats.of_isFree (h : f.Treats rover r op r') (hspares : op.Spares rover r)
    (hfree : r.state.IsFree) : r'.state.IsFree ∧ r'.progress = r.progress := by
  cases h with
  | keeps state progress spared => exact ⟨state ▸ hfree, progress⟩
  | asks available status progress => exact absurd available (hspares rfl)
  | updates held u => exact absurd hfree held.not_isFree
  | releases held => exact absurd hfree held.not_isFree
  | recovers fault =>
      -- The state is written, and the progress is not.
      rcases r with ⟨endpoint, state, progress, battery, x, y⟩
      cases hfree with
      | available => cases fault
      | fault since => exact ⟨.available, rfl⟩

/-- A rover that has been released is not marked. -/
theorem not_marked_released (r : RoverRecord) : ¬ (released r).Marked := by
  rintro (hfault | ⟨-, hprogress⟩)
  · cases hfault
  · exact hprogress rfl

/-- Of the reports on a mission only an error leaves its rover marked. -/
theorem Update.eq_fail_of_marked {u : Update} (h : (u.rover mission r).Marked) :
    ∃ e now, u = .fail e now := by
  cases u with
  | fail e now => exact ⟨e, now, rfl⟩
  | complete => exact absurd h (not_marked_released r)
  | abandon reason => exact absurd h (not_marked_released r)
  | revert => exact absurd h (not_marked_released r)
  | _ =>
      rcases h with hfault | ⟨havailable, -⟩
      · cases hfault
      · cases havailable

/-- A rover that is marked has been so and was not asked for, or it has just
    broken down. -/
theorem Treats.of_marked (h : f.Treats rover r op r') (hmarked : r'.Marked) :
    (r.Marked ∧ op.Spares rover r) ∨
      ∃ mission m e now, f.Held rover r mission m ∧ op = .update mission (.fail e now) := by
  cases h with
  | keeps state progress spared =>
      rw [RoverRecord.Marked, state, progress] at hmarked
      exact .inl ⟨hmarked, spared⟩
  -- A rover that was asked for is neither out of order nor left with progress.
  | asks available status progress =>
      rcases hmarked with hfault | ⟨-, hprogress⟩
      · exact absurd hfault status
      · exact absurd progress hprogress
  -- Of all that is reported only an error leaves a mark.
  | updates held u =>
      rcases Update.eq_fail_of_marked hmarked with ⟨e, now, rfl⟩
      exact .inr ⟨_, _, e, now, held, rfl⟩
  | releases held => exact absurd hmarked (not_marked_released r)
  | recovers fault => exact .inl ⟨.inl fault, trivial⟩

/-! ### What any number of operations leave -/

/-- A rover has broken down with an error in the course of these operations,
    and has not been asked for since then while it was available. -/
inductive Bears (rover : Int) (e : ErrorReport) : List Operation → Prop where
  | failed {ops : List Operation} {mission : Int} {r : RoverRecord} {m : MissionRecord}
      (held : (empty.performAll ops).Held rover r mission m) (now : Nat) :
      Bears rover e (ops ++ [.update mission (.fail e now)])
  | kept {ops : List Operation} {op : Operation} (earlier : Bears rover e ops)
      (spared : ∀ r, (empty.performAll ops).rovers.find? rover = some r → op.Spares rover r) :
      Bears rover e (ops ++ [op])

/-- A rover that has broken down is free and shows how far it had come. -/
theorem Bears.progress_eq {e : ErrorReport} {ops : List Operation} (h : Bears rover e ops) :
    ∃ r, (empty.performAll ops).rovers.find? rover = some r ∧ r.state.IsFree ∧
      r.progress = e.progress := by
  induction h with
  | @failed ops mission r m held now =>
      refine ⟨(Update.fail e now).rover mission r, ?_, .fault now, rfl⟩
      rw [performAll_concat, held.perform_update]
      exact find?_put_rover
  | @kept ops op earlier spared ih =>
      rcases ih with ⟨r, hr, hfree, hprogress⟩
      rcases (consistent_empty.performAll ops).treats hr op with ⟨r', hr', htreats⟩
      rcases htreats.of_isFree (spared r hr) hfree with ⟨hfree', hkept⟩
      rw [performAll_concat]
      exact ⟨r', hr', hfree', hkept.trans hprogress⟩

/-- A rover that is marked has broken down and was not asked for since. -/
theorem exists_bears {ops : List Operation}
    (hr : (empty.performAll ops).rovers.find? rover = some r) (hmarked : r.Marked) :
    ∃ e, Bears rover e ops := by
  induction ops using List.reverseRecOn generalizing r with
  | nil => cases hr
  | append_singleton ops op ih =>
      -- What the last operation made of the rover tells how it was before.
      have h : (empty.performAll ops).Consistent := consistent_empty.performAll ops
      rw [performAll_concat] at hr
      cases hr₀ : (empty.performAll ops).rovers.find? rover with
      | none =>
          -- A rover that is new shows nothing.
          rcases h.new_rover hr₀ op with hnone | ⟨endpoint, hnew⟩
          · cases hr.symm.trans hnone
          · cases hr.symm.trans hnew
            rcases hmarked with hfault | ⟨-, hprogress⟩
            · cases hfault
            · exact absurd rfl hprogress
      | some r₀ =>
          rcases h.treats hr₀ op with ⟨r', hr', htreats⟩
          cases hr.symm.trans hr'
          rcases htreats.of_marked hmarked with
            ⟨hmarked₀, hspares⟩ | ⟨mission, m, e, now, hheld, rfl⟩
          · rcases ih hr₀ hmarked₀ with ⟨e, hbears⟩
            refine ⟨e, .kept hbears (fun r' hr' => ?_)⟩
            cases hr₀.symm.trans hr'
            exact hspares
          · exact ⟨e, .failed hheld now⟩

/-! ### Rovers that can be assigned a mission -/

/-- Whatever has been done to a fleet, a rover that is available names no
    mission and no time since which it has been out of order. Its progress is that
    at which it last broke down, if it did and has not been asked for since, and
    zero otherwise. In particular it is zero if no rover has been set to work
    again after it was out of order. -/
theorem available_leftovers (ops : List Operation) {rover : Int} {r : RoverRecord}
    (hr : (empty.performAll ops).rovers.find? rover = some r)
    (available : r.state.status = .available) :
    r.state.mission? = none ∧ r.state.faultSince? = none ∧
    (∀ e, Bears rover e ops → r.progress = e.progress) ∧
    ((∀ e, ¬ Bears rover e ops) → r.progress = .zero) ∧
    ((∀ op ∈ ops, ∀ now cooldown, op ≠ .recoverFaulted now cooldown) → r.progress = .zero) := by
  have hstate : r.state = .available :=
    (consistent_empty.performAll ops).available_eq hr available
  refine ⟨by rw [hstate]; rfl, by rw [hstate]; rfl, fun e hbears => ?_, fun hnone => ?_,
    fun hops => ?_⟩
  · rcases hbears.progress_eq with ⟨r', hr', -, hprogress⟩
    cases hr.symm.trans hr'
    exact hprogress
  · -- Progress has to come from somewhere, and only a breakdown leaves any.
    by_contra hprogress
    rcases exists_bears hr (.inr ⟨available, hprogress⟩) with ⟨e, hbears⟩
    exact hnone e hbears
  · exact blank_empty.performAll consistent_empty hops rover r hr available

/-- The rover has made progress when its session gives up, and is free again. -/
theorem available_leftovers_abandoned :
    let draft : Draft := ⟨.zero, .zero, .zero, .zero, "scan", 60, 30, none, 1⟩
    let f := empty.performAll [.register 1 none, .submit draft 0, .assign 1 1,
      .update 1 (.recordProgress ⟨1, 4, .two⟩), .update 1 (.abandon "silent")]
    ∃ r, f.rovers.find? 1 = some r ∧ r.state.status = .available ∧ r.progress = .zero := by
  intro draft f
  have hrun : (f.rovers.find? 1).map (fun r => r.state.status) = some .available := by
    decide +kernel
  rcases Option.map_eq_some_iff.1 hrun with ⟨r, hr, available⟩
  rcases available_leftovers _ hr available with ⟨-, -, -, -, hzero⟩
  exact ⟨r, hr, available, hzero (by simp)⟩

/-- A rover breaks down two percent into its mission and is available again
    after a while. It is free, and it still shows two percent. -/
theorem available_leftovers_recovered :
    let draft : Draft := ⟨.zero, .zero, .zero, .zero, "scan", 60, 30, none, 1⟩
    let e : ErrorReport := ⟨1, .batteryLow, "low", .two, .two, .zero, .zero, 0⟩
    let f := empty.performAll [.register 1 none, .submit draft 0, .assign 1 1,
      .update 1 .confirm, .update 1 (.fail e 1000), .recoverFaulted 61000 60000]
    ∃ r, f.rovers.find? 1 = some r ∧ r.state.status = .available ∧
      ¬ (r.state.mission? = none ∧ r.state.faultSince? = none ∧ r.progress = .zero) := by
  intro draft e f
  have hrun : (f.rovers.find? 1).map (fun r => (r.state.status, r.progress)) =
      some (.available, .two) := by decide +kernel
  rcases Option.map_eq_some_iff.1 hrun with ⟨r, hr, hstatus⟩
  rcases Prod.mk.inj hstatus with ⟨available, hprogress⟩
  refine ⟨r, hr, available, fun hclean => ?_⟩
  exact absurd (hprogress.symm.trans hclean.2.2) (by decide)

end Fleet

end RoverDispatch
