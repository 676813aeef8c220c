import RoverDispatch.Fleet.Outcome
import RoverDispatch.Proofs.Fleet.Assignments
import RoverDispatch.Proofs.Fleet.StaleSessions

/-!
# Reservations

Whose entry it is that a session takes away when it leaves.

A session that has come to an end removes its entry. It names its rover and
its mission, and an entry of the rover for another mission is left alone. But
an entry can be taken away earlier, by a sweep, and then the rover is free to
be reserved again. The session does not notice before it has read what is in
its inbox, nor if it was about to leave anyway, and what it removes in the end
may be the entry of a later reservation.

Reservations are told apart by their desks. Desks are numbered in order and
never given out twice, so whatever becomes of a registry, the rover of a
reservation has its entry, or a later one, or none. A late removal does what it
should in all cases but one: it cannot tell a later entry for the same mission
from its own.

## Main definitions

* `Registry.Operation`, `Registry.perform`, `Registry.performAll`: What can be
  done to a registry.
* `Registry.Changes`: What can become of the entries.
* `Registry.Numbered`: No two entries share a desk, and none has one that has
  not been given out.
* `Registry.Reserved`: What can be left of a reservation.

## Theorems

* `Registry.changes_perform`: Entries come and go one at a time.
* `Registry.Reserved.performAll`: Nothing but a later entry takes the place of
  a reservation.
* `Registry.Reserved.isConnected_iff`: A desk is connected as long as its entry
  is there.
* `Registry.late_removal`: What the removal at the end of a session does.
-/

namespace RoverDispatch

namespace Registry

variable {π : Type}

/-! ### Operations -/

/-- What can be done to a registry. -/
inductive Operation (π : Type) where
  | reserve (rover mission : Int) (now : Nat)
  | remove (rover mission : Int)
  | dispatch (rover mission : Int) (p : π)
  | receive (desk : Nat)
  | leave (desk : Nat)
  | touch (desk : Nat) (now : Nat)
  | publish (desk : Nat) (session : Supervisor)
  deriving DecidableEq

/-- The registry after an operation, whether it is refused or not. -/
def perform (r : Registry π) : Operation π → Registry π
  | .reserve rover mission now => ((r.reserve rover mission now).map Prod.snd).getD r
  | .remove rover mission => r.remove rover mission
  | .dispatch rover mission p => (r.dispatch rover mission p).getD r
  | .receive desk => (r.receive desk).2
  | .leave desk => r.leave desk
  | .touch desk now => r.touch desk now
  | .publish desk session => r.publish desk session

/-- The registry after a number of operations. -/
def performAll (r : Registry π) (ops : List (Operation π)) : Registry π := ops.foldl perform r

variable {r r' : Registry π} {rover rover' mission : Int} {desk now : Nat} {e : Entry}

/-- What can become of the entries of a registry. -/
inductive Changes (r r' : Registry π) : Prop where
  | keeps (entries : r'.entries = r.entries) (nextDesk : r'.nextDesk = r.nextDesk)
  /-- A rover without an entry gets one with the next desk. -/
  | adds {rover mission : Int} (free : r.entries.find? rover = none)
      (entries : r'.entries = r.entries.insert rover ⟨mission, r.nextDesk⟩)
      (nextDesk : r'.nextDesk = r.nextDesk + 1)
  /-- A rover loses its entry. -/
  | drops (rover : Int) (entries : r'.entries = r.entries.erase rover)
      (nextDesk : r'.nextDesk = r.nextDesk)

theorem contains_eq_false_iff : r.contains rover = false ↔ r.entries.find? rover = none := by
  rw [contains, Table.contains, Option.isSome_eq_false_iff, Option.isNone_iff_eq_none]

/-- A reservation is made for a rover without an entry. -/
theorem of_reserve (h : r.reserve rover mission now = some (desk, r')) :
    r.entries.find? rover = none ∧ desk = r.nextDesk ∧ r'.nextDesk = r.nextDesk + 1 ∧
      r'.entries = r.entries.insert rover ⟨mission, desk⟩ := by
  rw [reserve] at h
  by_cases hfree : r.contains rover = true
  · rw [if_pos hfree] at h
    cases h
  · rw [if_neg hfree] at h
    cases h
    exact ⟨contains_eq_false_iff.1 (Bool.not_eq_true _ ▸ hfree), rfl, rfl, rfl⟩

/-- Delivering a packet changes no entry. -/
theorem of_dispatch {p : π} (h : r.dispatch rover mission p = some r') :
    r'.entries = r.entries ∧ r'.nextDesk = r.nextDesk := by
  simp only [dispatch, Option.bind_eq_bind, Option.bind_eq_some_iff] at h
  rcases h with ⟨e, he, h⟩
  split at h
  · rcases Option.bind_eq_some_iff.1 h with ⟨d, hd, h⟩
    split at h
    · cases h
      exact ⟨rfl, rfl⟩
    · cases h
  · cases h

/-- Every operation adds an entry, or takes one away, or does neither. -/
theorem changes_perform (r : Registry π) (op : Operation π) : r.Changes (r.perform op) := by
  cases op with
  | reserve rover mission now =>
      rw [perform]
      cases hreserve : r.reserve rover mission now with
      | none => exact .keeps rfl rfl
      | some result =>
          rcases result with ⟨desk, r'⟩
          rcases of_reserve hreserve with ⟨hfree, rfl, hnext, hentries⟩
          exact .adds hfree hentries hnext
  | remove rover mission =>
      rw [perform, remove]
      by_cases hheld : r.holds rover mission = true
      · rw [if_pos hheld]
        exact .drops rover rfl rfl
      · rw [if_neg hheld]
        exact .keeps rfl rfl
  -- All other operations only touch the desks.
  | dispatch rover mission p =>
      rw [perform]
      cases hdispatch : r.dispatch rover mission p with
      | none => exact .keeps rfl rfl
      | some r' => exact .keeps (of_dispatch hdispatch).1 (of_dispatch hdispatch).2
  | receive desk =>
      rw [perform, receive]
      split
      · exact .keeps rfl rfl
      · split <;> exact .keeps rfl rfl
  | leave desk => exact .keeps rfl rfl
  | touch desk now => exact .keeps rfl rfl
  | publish desk session => exact .keeps rfl rfl

/-! ### What is left of a reservation -/

/-- What can be left of a reservation: its desk has been given out, nobody else
    has it, and the rover has the entry, or a later one, or none. -/
structure Reserved (rover mission : Int) (desk : Nat) (r : Registry π) : Prop where
  given : desk < r.nextDesk
  own : ∀ {rover' e}, r.entries.find? rover' = some e → e.desk = desk →
    rover' = rover ∧ e.mission = mission
  later : ∀ {e}, r.entries.find? rover = some e → desk ≤ e.desk

/-- Every entry goes back to a reservation. -/
def Numbered (r : Registry π) : Prop :=
  ∀ rover e, r.entries.find? rover = some e → Reserved rover e.mission e.desk r

theorem numbered_empty : (empty : Registry π).Numbered := fun _ _ he => absurd he nofun

theorem Reserved.changes (h : Reserved rover mission desk r) (hr : r.Changes r') :
    Reserved rover mission desk r' := by
  have hgiven := h.given
  cases hr with
  | keeps entries nextDesk =>
      exact ⟨by omega, fun he => h.own (entries ▸ he), fun he => h.later (entries ▸ he)⟩
  | adds free entries nextDesk =>
      -- The new entry has a desk that is larger than any before.
      refine ⟨by omega, fun he hdesk => ?_, fun he => ?_⟩
      · rcases Table.of_find?_insert (entries ▸ he) with ⟨-, rfl⟩ | ⟨-, he⟩
        · exact absurd hdesk (by simp only; omega)
        · exact h.own he hdesk
      · rcases Table.of_find?_insert (entries ▸ he) with ⟨-, rfl⟩ | ⟨-, he⟩
        · exact Nat.le_of_lt hgiven
        · exact h.later he
  | drops dropped entries nextDesk =>
      exact ⟨by omega, fun he => h.own (Table.of_find?_erase (entries ▸ he)).2,
        fun he => h.later (Table.of_find?_erase (entries ▸ he)).2⟩

/-- A new entry is a reservation, and the others remain so. -/
theorem Numbered.adds (h : r.Numbered) (hnext : r'.nextDesk = r.nextDesk + 1)
    (hentries : r'.entries = r.entries.insert rover ⟨mission, r.nextDesk⟩) :
    Reserved rover mission r.nextDesk r' := by
  refine ⟨by omega, fun he hdesk => ?_, fun he => ?_⟩
  · rcases Table.of_find?_insert (hentries ▸ he) with ⟨rfl, rfl⟩ | ⟨-, he⟩
    · exact ⟨rfl, rfl⟩
    · have := (h _ _ he).given
      omega
  · rcases Table.of_find?_insert (hentries ▸ he) with ⟨-, rfl⟩ | ⟨hrover, -⟩
    · exact Nat.le_refl _
    · exact absurd rfl hrover

theorem Numbered.changes (h : r.Numbered) (hr : r.Changes r') : r'.Numbered := by
  intro rover e he
  have hchanges := hr
  cases hr with
  | keeps entries nextDesk => exact (h rover e (entries ▸ he)).changes hchanges
  | adds free entries nextDesk =>
      rcases Table.of_find?_insert (entries ▸ he) with ⟨rfl, rfl⟩ | ⟨-, he⟩
      · exact h.adds nextDesk entries
      · exact (h rover e he).changes hchanges
  | drops dropped entries nextDesk =>
      exact (h rover e (Table.of_find?_erase (entries ▸ he)).2).changes hchanges

theorem Numbered.performAll (h : r.Numbered) (ops : List (Operation π)) :
    (r.performAll ops).Numbered := by
  induction ops generalizing r with
  | nil => exact h
  | cons op ops ih => exact ih (h.changes (r.changes_perform op))

theorem Reserved.performAll (h : Reserved rover mission desk r) (ops : List (Operation π)) :
    Reserved rover mission desk (r.performAll ops) := by
  induction ops generalizing r with
  | nil => exact h
  | cons op ops ih => exact ih (h.changes (r.changes_perform op))

/-! ### Removals at the end of a session -/

theorem isConnected_iff : r.isConnected desk = true ↔
    ∃ rover e, r.entries.find? rover = some e ∧ e.desk = desk := by
  simp only [isConnected, Table.values, List.any_map, List.any_eq_true, Function.comp_apply,
    decide_eq_true_eq, Prod.exists, Table.mem_entries_iff]

/-- A desk is connected as long as its entry is there. -/
theorem Reserved.isConnected_iff (h : Reserved rover mission desk r) :
    r.isConnected desk = true ↔ r.entries.find? rover = some ⟨mission, desk⟩ := by
  rw [Registry.isConnected_iff]
  constructor
  · rintro ⟨rover', e, he, hdesk⟩
    rcases h.own he hdesk with ⟨rfl, rfl⟩
    rw [he, ← hdesk]
  · exact fun he => ⟨rover, _, he, rfl⟩

/-- A removal without an entry for the mission does nothing. -/
theorem remove_eq_self (h : ∀ e, r.entries.find? rover = some e → e.mission ≠ mission) :
    r.remove rover mission = r := by
  rw [remove, if_neg]
  rw [holds_iff]
  rintro ⟨e, he, hmission⟩
  exact h e he hmission

/-- The other rovers keep their entries. -/
theorem find?_remove_of_ne (r : Registry π) (hrover : rover' ≠ rover) (mission : Int) :
    (r.remove rover mission).entries.find? rover' = r.entries.find? rover' := by
  refine Option.ext (fun e => ?_)
  simp [find?_remove, Ne.symm hrover]

/-- A removal takes away any entry for the mission, and cuts off its desk. -/
theorem Reserved.remove (h : Reserved rover mission desk r) :
    (r.remove rover mission).isConnected desk = false := by
  have hremoved : Reserved rover mission desk (r.remove rover mission) :=
    h.changes (r.changes_perform (.remove rover mission))
  rw [Bool.eq_false_iff, Ne, hremoved.isConnected_iff, find?_remove]
  exact fun hfind => hfind.2 ⟨rfl, rfl⟩

/-- A session is reserved, anything happens, and then the session removes the
    entry of its rover and its mission. As long as its own entry is there, the
    removal takes it away and nothing else. If there is no entry any more, or a
    later one for another mission, nothing happens. But if the rover has been
    reserved for the same mission again, it is the later session that loses its
    entry and is cut off. -/
theorem late_removal (before : List (Operation π))
    {r₀ : Registry π} (hreserve : (empty.performAll before).reserve rover mission now =
      some (desk, r₀)) (after : List (Operation π)) :
    let r := r₀.performAll after
    let r' := r.remove rover mission
    r'.desks = r.desks ∧
    (∀ rover', rover' ≠ rover → r'.entries.find? rover' = r.entries.find? rover') ∧
    (r.isConnected desk = true ↔ r.entries.find? rover = some ⟨mission, desk⟩) ∧
    r'.isConnected desk = false ∧
    (r.contains rover = false → r' = r) ∧
    ∀ later, r.entries.find? rover = some later → later.desk ≠ desk →
      desk < later.desk ∧ (later.mission ≠ mission → r' = r) ∧
      (later.mission = mission → r.isConnected later.desk = true ∧
        r'.isConnected later.desk = false ∧ r'.contains rover = false) := by
  intro r r'
  have hbefore : (empty.performAll before).Numbered := numbered_empty.performAll before
  rcases of_reserve hreserve with ⟨hfree, rfl, hnext, hentries⟩
  have hnumbered : r.Numbered := (hbefore.changes (.adds hfree hentries hnext)).performAll after
  have hreserved : Reserved rover mission _ r := (hbefore.adds hnext hentries).performAll after
  refine ⟨desks_remove .., fun rover' hrover => find?_remove_of_ne r hrover mission,
    hreserved.isConnected_iff, hreserved.remove, fun hnone => ?_, fun later hlater hdesk => ?_⟩
  · refine remove_eq_self (fun e he => ?_)
    rw [contains_eq_false_iff.1 hnone] at he
    cases he
  · refine ⟨Nat.lt_of_le_of_ne (hreserved.later hlater) (Ne.symm hdesk), fun hother => ?_, ?_⟩
    · refine remove_eq_self (fun e he => ?_)
      cases hlater.symm.trans he
      exact hother
    · -- The later entry is told from the earlier one by nothing but its desk.
      rintro rfl
      have hreserved' : Reserved rover later.mission later.desk r := hnumbered rover later hlater
      refine ⟨hreserved'.isConnected_iff.2 hlater, hreserved'.remove, ?_⟩
      rw [contains_eq_false_iff, Option.eq_none_iff_forall_ne_some]
      intro e he
      rcases find?_remove.1 he with ⟨he, hother⟩
      cases hlater.symm.trans he
      exact hother ⟨rfl, rfl⟩

/-- The rover has been reserved for another mission in the meantime. -/
theorem late_removal_other_mission :
    let r₀ := (empty : Registry Message).perform (.reserve 1 1 0)
    let r := r₀.performAll [.remove 1 1, .reserve 1 2 5]
    r.entries.find? 1 = some ⟨2, 1⟩ ∧ r.remove 1 1 = r := by
  intro r₀ r
  have hreserve : (empty : Registry Message).reserve 1 1 0 = some (0, r₀) := by decide +kernel
  have hlater : r.entries.find? 1 = some ⟨2, 1⟩ := by decide +kernel
  rcases late_removal [] hreserve [.remove 1 1, .reserve 1 2 5] with ⟨-, -, -, -, -, hlate⟩
  exact ⟨hlater, (hlate _ hlater (by decide)).2.1 (by decide)⟩

/-- A rover declines its mission. A sweep finds the session ended and takes its
    entry before the session does so itself, and a scan gives the mission to the
    same rover again. Then the first session leaves, and the second one, which
    has just begun, is cut off. -/
theorem late_removal_same_mission :
    let draft : Draft := ⟨.zero, .zero, .zero, .zero, "scan", 60, 30, none, 1⟩
    let payload := draft.mission 1 0
    let f := Fleet.empty.performAll [.register 1 none, .submit draft 0, .assign 1 1]
    let r₀ := (empty : Registry Message).perform (.reserve 1 1 0)
    let declined : Message :=
      { kind := .response, sender := 1, receiver := coordinatorId, mission := 1, seq := 1
        success := false, payload := .empty }
    ∃ s, Supervisor.prepare {} 1 payload = .ok s ∧
      let heard := (s.greet 0).state.receive declined 1
      let d : Dispatcher Message :=
        ⟨f.applyAll 1 1 heard.events, r₀.performAll [.touch 0 1, .publish 0 heard.state]⟩
      let swept := (d.sweep ⟨120000, 60000⟩ 2).2
      let r := swept.registry.perform (.reserve 1 1 3)
      heard.state.isFinished = true ∧ (swept.fleet.assign 1 1).1 = .ok payload ∧
        r.entries.find? 1 = some ⟨1, 1⟩ ∧ r.isConnected 1 = true ∧
        (r.remove 1 1).contains 1 = false ∧ (r.remove 1 1).isConnected 1 = false := by
  intro draft payload f r₀ declined
  exact Supervisor.exists_prepare_of_check (by decide +kernel)

end Registry

end RoverDispatch
