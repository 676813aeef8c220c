import Mathlib.Data.List.Induction
import Mathlib.Data.List.Sort
import RoverDispatch.Proofs.Fleet.MissionStages

/-!
# Missions and Their Drafts

Every mission goes back to the draft that was handed in for it, and is still
what was made of it then.

Numbers are given out one after the other, and only to drafts that become
missions. So the drafts that were taken in, in their order, and the missions of
the fleet, in the order of their numbers, are the same thing seen from two
sides. `Fleet.takenBy` is the first: it follows the operations and keeps an
account of what was handed in with success. `Fleet.Accounted` says that the
fleet agrees with such an account.

Besides handing in, no operation makes a mission known or forgets one, and none
writes to what a mission asks for. That much can be read off the list of what
can become of a record.

## Main definitions

* `Intake`: A draft that was taken in.
* `Fleet.taken`, `Fleet.takenBy`: What operations take in.
* `Fleet.Accounted`: A fleet whose missions are those taken in.

## Theorems

* `Fleet.Alters.payload_eq`: No operation changes what a mission asks for.
* `Fleet.Consistent.contains_perform`: No operation but handing in makes a mission
  known.
* `Fleet.Accounted.perform`: The account is kept.
* `Fleet.missions_taken_in`: The missions of a fleet and their drafts.
-/

namespace RoverDispatch

/-- A draft that was taken in: the number of its mission, and the time at which
    it was handed in. -/
structure Intake where
  id : Int
  draft : Draft
  now : Int

namespace Fleet

/-! ### What operations take in -/

/-- What an operation takes in. -/
def taken (f : Fleet) : Operation → List Intake
  | .submit draft now =>
    match f.submit draft now with
    | .ok (id, _) => [⟨id, draft, now⟩]
    | .error _ => []
  | _ => []

/-- What a number of operations take in, one after the other. -/
def takenBy (f : Fleet) : List Operation → List Intake
  | [] => []
  | op :: ops => f.taken op ++ (f.perform op).takenBy ops

variable {f : Fleet} {mission : Int} {m m' : MissionRecord} {op : Operation}
  {draft : Draft} {now : Int}

theorem takenBy_concat (f : Fleet) (ops : List Operation) (op : Operation) :
    f.takenBy (ops ++ [op]) = f.takenBy ops ++ (f.performAll ops).taken op := by
  induction ops generalizing f with
  | nil => simp only [List.nil_append, takenBy, List.append_nil, performAll, List.foldl_nil]
  | cons first ops ih =>
      rw [List.cons_append, takenBy, takenBy, ih, List.append_assoc]
      rfl

/-- A draft with a defect is not taken in, and the fleet stays as it is. -/
theorem taken_submit_of_defect {defect : DraftDefect} (h : draft.defect? = some defect) :
    f.taken (.submit draft now) = [] ∧ f.perform (.submit draft now) = f := by
  refine ⟨?_, ?_⟩
  · simp only [taken, submit_eq, Draft.toMission, h]
  · simp only [perform, submit_eq, Draft.toMission, h]
    rfl

/-- A draft without defects is taken in as the next mission. -/
theorem taken_submit (h : draft.defect? = none) :
    f.taken (.submit draft now) = [⟨f.nextMission, draft, now⟩] ∧
      f.perform (.submit draft now) = { f with
        missions := f.missions.insert f.nextMission (.pending (draft.mission f.nextMission now))
        nextMission := f.nextMission + 1 } := by
  refine ⟨?_, ?_⟩
  · simp only [taken, submit_eq, Draft.toMission, h]
  · simp only [perform, submit_eq, Draft.toMission, h]
    rfl

/-- Other operations take nothing in. -/
theorem taken_of_ne (hop : ∀ draft now, op ≠ .submit draft now) : f.taken op = [] := by
  cases op with
  | submit draft now => exact absurd rfl (hop draft now)
  | _ => rfl

/-! ### What operations leave alone -/

/-- No operation changes what a mission asks for. -/
theorem Alters.payload_eq (h : f.Alters mission m op m') : m'.mission = m.mission := by
  cases h with
  | keeps op => rfl
  | assigns pending granted => rfl
  | updates held u => exact u.payload_mission _ m
  | releases held => exact Update.payload_mission _ _ m

/-- Replacing the record of a mission makes no mission known. -/
theorem Held.contains_put {rover : Int} {r r' : RoverRecord} (h : f.Held rover r mission m)
    (mission' : Int) :
    (f.put rover r' mission m').missions.contains mission' = f.missions.contains mission' :=
  Table.contains_insert_of_contains (by rw [Table.contains, h.missionRecord]; rfl) m' mission'

/-- No operation but handing in a draft makes a mission known or forgets one,
    or gives out a number. -/
theorem Consistent.contains_perform (h : f.Consistent)
    (hop : ∀ draft now, op ≠ .submit draft now) :
    (∀ mission, (f.perform op).missions.contains mission = f.missions.contains mission) ∧
      (f.perform op).nextMission = f.nextMission := by
  cases op with
  | register rover endpoint =>
      rw [Fleet.perform, Fleet.register]
      split <;> exact ⟨fun _ => rfl, rfl⟩
  | setEndpoint rover endpoint =>
      rw [Fleet.perform, Fleet.setEndpoint]
      split <;> exact ⟨fun _ => rfl, rfl⟩
  | submit draft now => exact absurd rfl (hop draft now)
  | assign rover mission =>
      have hassigns := f.assigns rover mission
      rw [Fleet.perform]
      generalize f.assign rover mission = result at hassigns ⊢
      cases hassigns with
      | refused e => exact ⟨fun _ => rfl, rfl⟩
      | released e roverRecord available => exact ⟨fun _ => rfl, rfl⟩
      | tied roverRecord available missionRecord pending =>
          -- Records are written over, but only those of missions that are known.
          have hknown : f.missions.contains mission = true := by
            rw [Table.contains, missionRecord]
            rfl
          exact ⟨Table.contains_insert_of_contains hknown _, rfl⟩
  | update mission u =>
      rcases h.perform_update mission u with hsame | ⟨rover, r, m, hheld, hput⟩
      · rw [hsame]
        exact ⟨fun _ => rfl, rfl⟩
      · rw [hput]
        exact ⟨hheld.contains_put, rfl⟩
  | releaseOrphan rover =>
      rcases h.perform_releaseOrphan rover with hsame | ⟨r, mission, m, hheld, hput⟩
      · rw [hsame]
        exact ⟨fun _ => rfl, rfl⟩
      · rw [hput]
        exact ⟨hheld.contains_put, rfl⟩
  | recoverFaulted now cooldown => exact ⟨fun _ => rfl, rfl⟩

/-! ### Fleets and what was taken in -/

/-- The missions of a fleet are those that were taken in, under the numbers from
    one on. -/
structure Accounted (f : Fleet) (taken : List Intake) : Prop where
  numbers : taken.map Intake.id = (List.range taken.length).map (fun i : Nat => (i : Int) + 1)
  nextMission : f.nextMission = taken.length + 1
  known : ∀ mission, f.missions.contains mission = true ↔ mission ∈ taken.map Intake.id
  payloads : ∀ t ∈ taken, ∃ m, f.missions.find? t.id = some m ∧
    t.draft.toMission t.id t.now = .ok m.mission

theorem accounted_empty : empty.Accounted [] :=
  ⟨rfl, rfl, fun mission => by simp [Table.contains, empty], nofun⟩

variable {taken : List Intake}

/-- What was taken in is still there after any operation. -/
theorem Accounted.payloads_perform (h : f.Accounted taken) (hf : f.Consistent) (op : Operation) :
    ∀ t ∈ taken, ∃ m, (f.perform op).missions.find? t.id = some m ∧
      t.draft.toMission t.id t.now = .ok m.mission := by
  intro t ht
  rcases h.payloads t ht with ⟨m, hm, hpayload⟩
  rcases hf.alters hm op with ⟨m', hm', halters⟩
  exact ⟨m', hm', halters.payload_eq ▸ hpayload⟩

/-- The account goes on with the next number when a draft without defects is
    handed in. -/
theorem Accounted.submit (h : f.Accounted taken) (hf : f.Consistent) (hdraft : draft.defect? = none)
    (now : Int) : (f.perform (.submit draft now)).Accounted
      (taken ++ [⟨f.nextMission, draft, now⟩]) where
  numbers := by
    rw [List.map_append, List.length_append, List.length_singleton, List.range_succ,
      List.map_append, h.numbers, List.map_singleton, List.map_singleton, h.nextMission]
  nextMission := by
    rw [(taken_submit hdraft).2, List.length_append, List.length_singleton]
    simp only [h.nextMission]
    omega
  known := by
    intro mission
    rw [(taken_submit hdraft).2, Table.contains, Table.find?_insert, List.map_append,
      List.map_singleton, List.mem_append, List.mem_singleton, ← h.known, Table.contains]
    -- The new number is known from now on, and all others as before.
    by_cases hmission : mission = f.nextMission
    · simp only [hmission, if_true, Option.isSome_some, or_true]
    · simp only [hmission, if_false, or_false]
  payloads := by
    intro t ht
    rcases List.mem_append.1 ht with ht | ht
    · exact h.payloads_perform hf _ t ht
    · rw [List.mem_singleton.1 ht, (taken_submit hdraft).2]
      exact ⟨_, Table.find?_insert_self _ _ _, Draft.toMission_eq_ok_iff.2 ⟨hdraft, rfl⟩⟩

/-- The account is kept by every operation. -/
theorem Accounted.perform (h : f.Accounted taken) (hf : f.Consistent) (op : Operation) :
    (f.perform op).Accounted (taken ++ f.taken op) := by
  -- Handing in a draft is the only operation that can take one in.
  by_cases hop : ∃ draft now, op = .submit draft now
  · rcases hop with ⟨draft, now, rfl⟩
    cases hdraft : draft.defect? with
    | some defect =>
        rw [(taken_submit_of_defect hdraft).1, (taken_submit_of_defect hdraft).2, List.append_nil]
        exact h
    | none =>
        rw [(taken_submit hdraft).1]
        exact h.submit hf hdraft now
  · have hother : ∀ draft now, op ≠ .submit draft now := fun draft now he => hop ⟨draft, now, he⟩
    rcases hf.contains_perform hother with ⟨hcontains, hnext⟩
    rw [taken_of_ne hother, List.append_nil]
    exact ⟨h.numbers, hnext.trans h.nextMission, fun mission => by rw [hcontains, h.known],
      h.payloads_perform hf op⟩

theorem accounted_performAll (ops : List Operation) :
    (empty.performAll ops).Accounted (empty.takenBy ops) := by
  -- What the last operation takes in depends on all that was done before it.
  induction ops using List.reverseRecOn with
  | nil => exact accounted_empty
  | append_singleton ops op ih =>
      rw [performAll_concat, takenBy_concat]
      exact ih.perform (consistent_empty.performAll ops) op

/-- The missions are listed in the order in which they were taken in. -/
theorem Accounted.keys_eq (h : f.Accounted taken) : f.missions.keys = taken.map Intake.id := by
  have hsorted : (taken.map Intake.id).Pairwise (· < ·) := by
    rw [h.numbers, List.pairwise_map]
    refine List.pairwise_lt_range.imp (fun {i j} hij => ?_)
    omega
  refine List.Pairwise.eq_of_mem_iff f.missions.pairwise_keys hsorted (fun mission => ?_)
  rw [Table.mem_keys_iff, ← h.known, Table.contains]

/-- What was taken in is there for good, and within the bounds. -/
theorem Accounted.payloads_performAll (h : f.Accounted taken) (hf : f.Consistent) {t : Intake}
    (ht : t ∈ taken) (later : List Operation) :
    ∃ m, (f.performAll later).missions.find? t.id = some m ∧
      t.draft.toMission t.id t.now = .ok m.mission ∧ m.mission.Admissible := by
  rcases h.payloads t ht with ⟨m, hm, hpayload⟩
  have hkept : ∀ {f m₁ op m₂}, m₁.mission = m.mission → Alters f t.id m₁ op m₂ →
      m₂.mission = m.mission := fun hsame halters => halters.payload_eq.trans hsame
  rcases hf.performAll_alters hkept hm rfl later with ⟨m', hm', hsame⟩
  rcases Draft.toMission_eq_ok_iff.1 hpayload with ⟨hdraft, hmission⟩
  refine ⟨m', hm', hsame ▸ hpayload, ?_⟩
  rw [hsame, ← hmission]
  exact Draft.admissible_mission hdraft t.id t.now

/-- A draft that is refused leaves the fleet as it was. -/
theorem intake_refused {e : FleetError} (h : (f.intake draft now).1 = .error e) :
    (f.intake draft now).2 = f := by
  rw [intake_eq] at h ⊢
  cases hdraft : draft.defect? with
  | some defect => rfl
  | none =>
      rw [hdraft] at h
      cases h

/-- Whatever has been done to a fleet, with `k` drafts taken in on the way: the
    missions are numbered from `1` to `k` in the order of the drafts, and the next
    number is the next one. Every mission asks for what its draft became under
    its number, which is within the bounds, and whatever is done later does not
    change that. A draft is taken in exactly if it has no defect, and if it is
    refused then the whole fleet is as before. -/
theorem missions_taken_in (ops : List Operation) :
    let f := empty.performAll ops
    let taken := empty.takenBy ops
    taken.map Intake.id = (List.range taken.length).map (fun i : Nat => (i : Int) + 1) ∧
    f.missions.keys = taken.map Intake.id ∧
    f.nextMission = taken.length + 1 ∧
    (∀ t ∈ taken, ∀ later, ∃ m, (f.performAll later).missions.find? t.id = some m ∧
      t.draft.toMission t.id t.now = .ok m.mission ∧ m.mission.Admissible) ∧
    ∀ draft now,
      ((∃ id g, f.submit draft now = .ok (id, g)) ↔ draft.defect? = none) ∧
      f.perform (.submit draft now) = (f.intake draft now).2 ∧
      ∀ e, (f.intake draft now).1 = .error e → (f.intake draft now).2 = f := by
  intro f taken
  have h : f.Accounted taken := accounted_performAll ops
  refine ⟨h.numbers, h.keys_eq, h.nextMission,
    fun t ht later => h.payloads_performAll (consistent_empty.performAll ops) ht later,
    fun draft now => ⟨?_, ?_, fun e => intake_refused⟩⟩
  · rw [submit_eq]
    cases hdraft : draft.defect? <;> simp [Draft.toMission, hdraft]
  · rw [perform, submit]
    cases hresult : f.intake draft now with
    | mk result g =>
        cases result with
        | ok id => rfl
        -- What `perform` does with a refusal is to keep the fleet, which the refusal has not
        -- changed.
        | error e =>
            have hsame := intake_refused (congrArg Prod.fst hresult)
            rw [hresult] at hsame
            exact hsame.symm

end Fleet

end RoverDispatch
