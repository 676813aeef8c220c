import Mathlib
import RoverDispatch.Proofs.Transfer.Missions
import RoverDispatch.Proofs.Transfer.Windows
import RoverDispatch.Session.Reception

/-!
# Receptions of a Cut Mission

A rover that is sent the fragments of one mission, in any order and any of
them again, starts that mission and no other.

Two records are kept of what has arrived: the window holds the numbers and the
assembly holds the fields. `Reception.Arrived` says that both tell the same
story, which is a list of different fragments, not yet all of them. A fragment
that is new is put at the end of the list. When the list becomes as long as
the transfer it names every fragment, so the assembly makes the mission, and
the branch that forgets everything is never taken. Most of the time it does
not matter which fragments these are; `Reception.Collecting` leaves it open.

As long as the window has room, something is missing. A rover that is still
collecting therefore never tells the coordinator that it has everything.

## Main definitions

* `Reception.Collecting`: Some fragments have arrived, but not all.
* `Reception.Arrived`: Exactly these fragments have arrived, and not all.
* `Reception.withArrival`: What has arrived after one more fragment.

## Theorems

* `Reception.Arrived.take`: A fragment that completes what has arrived makes
  the mission, and no other does.
* `Reception.Collecting.take`: A fragment completes the mission or leaves a
  reception that goes on collecting.
* `Reception.Collecting.nudge`: So does silence.
-/

namespace RoverDispatch

namespace Reception

variable {frags : List (List Field)} {r : Reception}

/-- The window of a transfer of which some fragments have arrived. -/
def windowOf (order : List (Fin frags.length)) : Window :=
  ⟨firstTransferSeq, frags.length,
    (order.map (fun i : Fin frags.length => firstTransferSeq + (i : Nat))).reverse⟩

/-- Some fragments have arrived, each of them once or more, but not all. -/
inductive Collecting (frags : List (List Field)) (r : Reception) : Prop where
  /-- None has, so not even their number is known. -/
  | fresh (window : r.window = none) (assembly : r.assembly = ∅)
  /-- Those in the list have, in its order. -/
  | partly (order : List (Fin frags.length)) (nodup : order.Nodup)
      (short : order.length < frags.length) (window : r.window = some (windowOf order))
      (assembly : r.assembly = .deliver frags order)

theorem Collecting.start (now : Nat) : (Reception.start now).Collecting frags :=
  .fresh rfl rfl

/-- Exactly these fragments have arrived, in this order, each of them once or
    more, but not all. -/
inductive Arrived (frags : List (List Field)) (r : Reception) :
    List (Fin frags.length) → Prop where
  | fresh (window : r.window = none) (assembly : r.assembly = ∅) : Arrived frags r []
  | partly {order : List (Fin frags.length)} (nodup : order.Nodup)
      (short : order.length < frags.length) (window : r.window = some (windowOf order))
      (assembly : r.assembly = .deliver frags order) : Arrived frags r order

section Arrived

variable {order : List (Fin frags.length)}

theorem Arrived.collecting (h : r.Arrived frags order) : r.Collecting frags := by
  cases h with
  | fresh window assembly => exact .fresh window assembly
  | partly nodup short window assembly => exact .partly order nodup short window assembly

theorem Collecting.arrived (h : r.Collecting frags) : ∃ order, r.Arrived frags order := by
  cases h with
  | fresh window assembly => exact ⟨[], .fresh window assembly⟩
  | partly order nodup short window assembly =>
      exact ⟨order, .partly nodup short window assembly⟩

/-- Only the window and the assembly count. -/
theorem Arrived.congr {r' : Reception} (h : r.Arrived frags order) (hw : r'.window = r.window)
    (ha : r'.assembly = r.assembly) : r'.Arrived frags order := by
  cases h with
  | fresh window assembly => exact .fresh (hw.trans window) (ha.trans assembly)
  | partly nodup short window assembly =>
      exact .partly nodup short (hw.trans window) (ha.trans assembly)

theorem Collecting.congr {r' : Reception} (h : r.Collecting frags) (hw : r'.window = r.window)
    (ha : r'.assembly = r.assembly) : r'.Collecting frags := by
  rcases h.arrived with ⟨order, horder⟩
  exact (horder.congr hw ha).collecting

/-- The records before one more fragment arrives. -/
theorem Arrived.records (h : r.Arrived frags order) (hpos : 0 < frags.length) :
    order.Nodup ∧ order.length < frags.length ∧
      r.window.getD (.start firstTransferSeq frags.length) = windowOf order ∧
      r.assembly = .deliver frags order := by
  cases h with
  | fresh window assembly =>
      refine ⟨List.nodup_nil, hpos, ?_, assembly⟩
      have hmax : max (frags.length : Int) 1 = frags.length := by omega
      rw [window, Option.getD_none, Window.start, hmax]
      rfl
  | partly nodup short window assembly =>
      exact ⟨nodup, short, by rw [window, Option.getD_some], assembly⟩

end Arrived

theorem count_windowOf (order : List (Fin frags.length)) :
    (windowOf order).count = order.length := by
  rw [Window.count, windowOf, List.length_reverse, List.length_map]

theorem mem_seen_windowOf {order : List (Fin frags.length)} {i : Fin frags.length} :
    firstTransferSeq + (i : Nat) ∈ (windowOf order).seen ↔ i ∈ order := by
  rw [windowOf, List.mem_reverse, List.mem_map]
  constructor
  · rintro ⟨j, hj, he⟩
    have hij : j = i := Fin.ext (Int.ofNat_inj.1 (Int.add_left_cancel he))
    exact hij ▸ hj
  · exact fun hi => ⟨i, hi, rfl⟩

/-- The numbers of fragments belong to the transfer, so one is recorded exactly
    when it is new, and then as the latest. -/
theorem record?_windowOf (order : List (Fin frags.length)) (i : Fin frags.length) :
    (windowOf order).record? (firstTransferSeq + (i : Nat)) =
      if i ∈ order then none else some (windowOf (order ++ [i])) := by
  -- The number of a fragment is one of the transfer.
  have hin : (windowOf order).contains (firstTransferSeq + (i : Nat)) := by
    have hi := i.isLt
    simp only [Window.contains, Window.last, windowOf]
    exact decide_eq_true (by omega)
  rw [Window.record?]
  by_cases hi : i ∈ order
  · rw [if_pos hi, if_neg (fun hnew => hnew.2 (mem_seen_windowOf.2 hi))]
  · rw [if_neg hi, if_pos ⟨hin, fun hseen => hi (mem_seen_windowOf.1 hseen)⟩]
    simp only [windowOf, List.map_append, List.map_singleton, List.reverse_append,
      List.reverse_singleton, List.singleton_append]

theorem isComplete_windowOf (order : List (Fin frags.length)) :
    (windowOf order).isComplete ↔ order.length = frags.length := by
  rw [Window.isComplete, count_windowOf, decide_eq_true_eq]
  exact Int.ofNat_inj

/-- A list of different fragments that is as long as the transfer names every
    one of them. -/
theorem mem_of_length_eq {n : Nat} {order : List (Fin n)} (hd : order.Nodup)
    (hlen : order.length = n) (i : Fin n) : i ∈ order := by
  have hsub : order ⊆ List.finRange n := fun j _ => List.mem_finRange j
  have hperm := (List.subperm_of_subset hd hsub).perm_of_length_le (by simp [hlen])
  exact hperm.mem_iff.2 (List.mem_finRange i)

/-- What has arrived after one more fragment. -/
def withArrival (order : List (Fin frags.length)) (i : Fin frags.length) :
    List (Fin frags.length) :=
  if i ∈ order then order else order ++ [i]

theorem mem_withArrival {order : List (Fin frags.length)} {i j : Fin frags.length} :
    j ∈ withArrival order i ↔ j = i ∨ j ∈ order := by
  rw [withArrival]
  split
  · rename_i hi
    exact ⟨.inr, fun h => h.elim (fun he => he ▸ hi) id⟩
  · rw [List.mem_append, List.mem_singleton, or_comm]

/-- What one fragment of a mission leads to: the mission, or a reception that
    goes on collecting and does not claim to have everything. -/
inductive Takes (frags : List (List Field)) (m : Mission) : Reception × Verdict → Prop where
  | complete (r : Reception) : Takes frags m (r, .complete m)
  | silent {r : Reception} (h : r.Collecting frags) : Takes frags m (r, .silent)
  | ask {r : Reception} (h : r.Collecting frags) {missing : List Int} (hne : missing ≠ []) :
      Takes frags m (r, .ask missing)

/-- What one fragment of a mission leads to when these have arrived with it. -/
inductive Lands (frags : List (List Field)) (m : Mission) (order : List (Fin frags.length)) :
    Reception × Verdict → Prop where
  | complete (r : Reception) (all : ∀ i, i ∈ order) : Lands frags m order (r, .complete m)
  | silent {r : Reception} (h : r.Arrived frags order) : Lands frags m order (r, .silent)
  | ask {r : Reception} (h : r.Arrived frags order) {missing : List Int} (hne : missing ≠ []) :
      Lands frags m order (r, .ask missing)

section Lands

variable {m : Mission} {order : List (Fin frags.length)}

theorem Lands.takes {x : Reception × Verdict} (h : Lands frags m order x) : Takes frags m x := by
  cases h with
  | complete r all => exact .complete r
  | silent h => exact .silent h.collecting
  | ask h hne => exact .ask h.collecting hne

/-- Asking changes neither record, and never asks for nothing. -/
theorem Lands.of_ask (h : r.Arrived frags order) (seqs : List Int) (hold now : Nat) :
    Lands frags m order (r.ask seqs hold now) := by
  simp only [Reception.ask]
  split
  · exact .silent (h.congr rfl rfl)
  · rename_i hne
    refine .ask ?_ hne
    exact h.congr rfl rfl

/-- A fragment that has arrived before. -/
theorem lands_known (hd : order.Nodup) (hlt : order.length < frags.length)
    (ha : r.assembly = .deliver frags order) (seq : Int) (now : Nat) :
    Lands frags m order (r.takeKnown (windowOf order) seq now) := by
  have hmissing : (windowOf order).missing ≠ [] := by
    refine Window.missing_ne_nil ?_
    rw [count_windowOf]
    exact Int.ofNat_lt.2 hlt
  -- What has arrived stays what it was.
  have harrived : Arrived frags { r with window := some (windowOf order) } order :=
    .partly hd hlt rfl ha
  simp only [takeKnown]
  split
  · refine .ask ?_ hmissing
    exact harrived.congr rfl rfl
  · exact .silent harrived

/-- A fragment that has not arrived before. -/
theorem lands_new (hm : m.Fits) (hcut : CutInto m.toFields frags.flatten) (hd : order.Nodup)
    (hle : order.length ≤ frags.length) (t : Timing) (seq : Int) {fields : List Field}
    (ha : r.assembly.addAll fields = .deliver frags order) (now : Nat) :
    Lands frags m order (r.takeNew t (windowOf order) seq fields now) := by
  simp only [takeNew]
  split
  · -- Every fragment is there, so they make the mission.
    rename_i hcomplete
    have hall := mem_of_length_eq hd ((isComplete_windowOf order).1 hcomplete)
    simp only [ha, Assembly.rebuildMission_deliver hm hcut hall]
    exact .complete _ hall
  · -- Some are missing, and whether to ask for them now is a matter of timing.
    rename_i hroom
    have hlt : order.length < frags.length :=
      Nat.lt_of_le_of_ne hle (fun he => hroom ((isComplete_windowOf order).2 he))
    have harrived : Arrived frags { r with
        assembly := r.assembly.addAll fields, window := some (windowOf order),
        sinceCheck := r.sinceCheck + 1 } order :=
      .partly hd hlt rfl ha
    split
    · exact .of_ask harrived _ _ _
    · split
      · exact .of_ask harrived _ _ _
      · exact .silent harrived

/-- A fragment that completes what has arrived makes the mission, and no other
    does. -/
theorem Arrived.take (h : r.Arrived frags order) (hm : m.Fits)
    (hcut : CutInto m.toFields frags.flatten) (t : Timing) (i : Fin frags.length) (now : Nat) :
    Lands frags m (withArrival order i)
      (r.take t (firstTransferSeq + (i : Nat)) frags.length (frags.get i) now) := by
  rcases h.records (Nat.zero_lt_of_lt i.isLt) with ⟨hd, hlt, hw, ha⟩
  rw [Reception.take, hw, record?_windowOf, withArrival]
  -- A fragment that is known changes nothing. A new one goes into window and assembly.
  by_cases hi : i ∈ order
  · rw [if_pos hi, if_pos hi]
    exact lands_known hd hlt ha _ now
  · rw [if_neg hi, if_neg hi]
    refine lands_new hm hcut ?_ ?_ t _ ?_ now
    · exact List.nodup_append.2 ⟨hd, List.nodup_singleton i,
        fun j hj k hk hjk => hi (List.mem_singleton.1 hk ▸ hjk ▸ hj)⟩
    · rw [List.length_append, List.length_singleton]
      exact hlt
    · rw [ha, Assembly.deliver, Assembly.deliver, List.foldl_append]
      rfl

/-- As long as not all fragments have arrived, one has not. -/
theorem Arrived.exists_not_mem (h : r.Arrived frags order) (hne : frags ≠ []) :
    ∃ i, i ∉ order := by
  by_contra hall
  have hsub : List.finRange frags.length ⊆ order :=
    fun i _ => by_contra (fun hi => hall ⟨i, hi⟩)
  have hlen := (List.subperm_of_subset (List.nodup_finRange _) hsub).length_le
  rw [List.length_finRange] at hlen
  exact Nat.not_lt.2 hlen (h.records (List.length_pos_iff.2 hne)).2.1

/-- Silence changes neither record. -/
theorem Arrived.nudge (h : r.Arrived frags order) (now : Nat) :
    (r.nudge now).1.Arrived frags order := by
  rw [Reception.nudge]
  split <;> exact h.congr rfl rfl

end Lands

/-- A fragment completes the mission or leaves a reception that goes on
    collecting. -/
theorem Collecting.take {m : Mission} (h : r.Collecting frags) (hm : m.Fits)
    (hcut : CutInto m.toFields frags.flatten) (t : Timing) (i : Fin frags.length) (now : Nat) :
    Takes frags m (r.take t (firstTransferSeq + (i : Nat)) frags.length (frags.get i) now) := by
  rcases h.arrived with ⟨order, horder⟩
  exact (horder.take hm hcut t i now).takes

/-- Silence changes neither record, and what is then asked for is never
    nothing. -/
theorem Collecting.nudge (h : r.Collecting frags) (now : Nat) :
    (r.nudge now).1.Collecting frags ∧ ∀ q, (r.nudge now).2 = some q → q.2 ≠ [] := by
  rcases h.arrived with ⟨order, horder⟩
  refine ⟨(horder.nudge now).collecting, ?_⟩
  rw [Reception.nudge]
  cases hw : r.window with
  | none => exact nofun
  | some w =>
      rintro q hq
      cases hq
      -- There is a window, so the number of fragments is known and not reached.
      cases horder with
      | fresh window assembly => exact absurd (hw.symm.trans window) nofun
      | partly nodup short window assembly =>
          cases hw.symm.trans window
          refine Window.missing_ne_nil ?_
          rw [count_windowOf]
          exact Int.ofNat_lt.2 short

end Reception

end RoverDispatch
