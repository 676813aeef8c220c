import RoverDispatch.Node.Coordinator
import RoverDispatch.Proofs.Fleet.Refusals
import RoverDispatch.Proofs.Fleet.Reservations
import RoverDispatch.Proofs.Session.Supervisors

/-!
# Scans

What a scan makes of the missions that wait and the rovers that are free.

A scan reads two lists when it begins, and then goes through them side by side.
For each rover and mission it writes to three places, the record of the one,
that of the other, and the entry of the rover, and it may have to take back
what it has written when it finds that the rover has no address or that the
mission cannot be cut into fragments. `Coordinator.Meeting` lists what can come
of it; there is no fourth case, because a consistent fleet refuses neither a
rover that is available nor a mission that waits.

What has been read stays true for the rest of the lists. No rover and no
mission is listed twice, and what becomes of one pair touches neither the
records nor the entry of another. So the pairs can be dealt with one at a time,
and in the end each has come to what the records said in the beginning.

## Main definitions

* `Coordinator.Meeting`: What becomes of one rover and one mission.
* `Coordinator.Writes`: Where it is written down.
* `Coordinator.Ready`: Pairs that can be brought together.
* `Coordinator.Meetings`: What becomes of a number of pairs.
* `Coordinator.Scanned`: What a scan is to do.

## Theorems

* `Fleet.Consistent.pairwise_pendingMissions`, `Coordinator.pairwise_freeRovers`:
  The order of what waits and of what is free.
* `Fleet.Consistent.exists_assign`: What can be assigned is assigned, and can be
  taken back.
* `Coordinator.exists_meeting`: One rover and one mission.
* `Coordinator.Ready.scanOne`, `Coordinator.Ready.foldl_scanOne`: One pair after
  the other.
* `Coordinator.scan_assigns`: A scan does what it is to do.
-/

namespace RoverDispatch

/-- Two lists that are in order are so side by side. -/
theorem pairwise_zip {α β : Type} {R : α → α → Prop} {S : β → β → Prop} {l : List α}
    {k : List β} (hl : l.Pairwise R) (hk : k.Pairwise S) :
    (l.zip k).Pairwise (fun x y => R x.1 y.1 ∧ S x.2 y.2) := by
  induction l generalizing k with
  | nil => exact .nil
  | cons a l ih =>
      cases k with
      | nil => exact .nil
      | cons b k =>
          refine .cons (fun x hx => ?_) (ih hl.of_cons hk.of_cons)
          have := List.of_mem_zip hx
          exact ⟨List.rel_of_pairwise_cons hl this.1, List.rel_of_pairwise_cons hk this.2⟩

namespace Fleet

variable {f : Fleet} {rover mission : Int} {r : RoverRecord} {m : MissionRecord}

/-! ### What waits and what is free -/

/-- The missions that a scan looks at are those that wait. -/
theorem Consistent.mem_pendingMissions_iff (h : f.Consistent) {p : Mission} :
    p ∈ f.pendingMissions ↔
      ∃ m, f.missions.find? p.id = some m ∧ m.mission = p ∧ m.state.status = .pending := by
  simp only [pendingMissions, List.mem_mergeSort, List.mem_map, List.mem_filter, Table.values,
    Prod.exists, exists_eq_right, beq_iff_eq, Table.mem_entries_iff]
  constructor
  · rintro ⟨m, ⟨⟨mission, hm⟩, hpending⟩, rfl⟩
    rw [(h.numbered hm).1]
    exact ⟨m, hm, rfl, hpending⟩
  · rintro ⟨m, hm, rfl, hpending⟩
    exact ⟨m, ⟨⟨_, hm⟩, hpending⟩, rfl⟩

/-- No two of them have the same number. -/
theorem Consistent.pairwise_id (h : f.Consistent) :
    f.pendingMissions.Pairwise (fun p q => p.id ≠ q.id) := by
  have hvalues : f.missions.values.Pairwise (fun m m' => m.mission.id ≠ m'.mission.id) := by
    -- Missions are kept under their own numbers.
    refine List.pairwise_map.2
      ((List.pairwise_map.1 f.missions.nodup_keys).imp_of_mem (fun {e e'} he he' hne => ?_))
    rw [(h.numbered (Table.mem_entries_iff.1 he)).1, (h.numbered (Table.mem_entries_iff.1 he')).1]
    exact hne
  rw [pendingMissions, (List.mergeSort_perm _ _).pairwise_iff Ne.symm, List.pairwise_map]
  exact hvalues.filter _

theorem before_iff {p q : Mission} : before p q = true ↔
    q.priority < p.priority ∨ p.priority = q.priority ∧ p.id ≤ q.id := by
  simp only [before, Bool.or_eq_true, decide_eq_true_eq, Bool.and_eq_true, beq_iff_eq]

/-- They come in the order in which they are assigned. -/
theorem Consistent.pairwise_pendingMissions (h : f.Consistent) :
    f.pendingMissions.Pairwise (fun p q =>
      q.priority < p.priority ∨ p.priority = q.priority ∧ p.id < q.id) := by
  have hsorted : f.pendingMissions.Pairwise (fun p q => before p q = true) := by
    refine List.pairwise_mergeSort (fun p q s hpq hqs => ?_) (fun p q => ?_) _
    · rw [before_iff] at *
      omega
    · rw [Bool.or_eq_true, before_iff, before_iff]
      omega
  -- Two that come before each other have the same number, and there are none.
  refine (hsorted.and h.pairwise_id).imp (fun {p q} ⟨hbefore, hid⟩ => ?_)
  rw [before_iff] at hbefore
  omega

/-! ### Records of rovers and missions that can be tied -/

/-- A rover that is reserved keeps its address, its battery and its position. -/
theorem Consistent.reserved_record (h : f.Consistent) (hr : f.rovers.find? rover = some r)
    (available : r.state.status = .available) (mission : Int) :
    reserved r mission = { r with state := .receiving mission, progress := .zero } := by
  rw [← h.reserved_eq hr available mission]
  rfl

/-- A mission that has waited is assigned once more. -/
theorem Consistent.assigned_eq (h : f.Consistent) (hm : f.missions.find? mission = some m)
    (pending : m.state.status = .pending) (rover : Int) :
    assigned m rover = { m with state := .assigned rover, attempts := m.attempts + 1 } := by
  rw [assigned, ← h.waiting hm (h.pending_eq hm pending)]
  rfl

/-- It has nothing else to lose when it is taken back. -/
theorem Consistent.reverted_eq (h : f.Consistent) (hm : f.missions.find? mission = some m)
    (pending : m.state.status = .pending) (state : MissionState) (attempts : Nat) :
    reverted { m with state, attempts } = { m with state := .pending, attempts } := by
  rw [← h.waiting hm (h.pending_eq hm pending)]
  rfl

/-- An update of two records that have just been written down replaces them. -/
theorem update_put (f : Fleet) (engaged : Engagement rover mission r.state m.state) (u : Update) :
    (f.put rover r mission m).update mission u =
      .ok (f.put rover (u.rover mission r) mission (u.mission rover m)) := by
  rw [(Held.put engaged).update]
  simp only [put, Table.insert_insert]

/-- A rover that is available and a mission that waits are tied, and what is
    reported on the mission then finds nothing else to change. -/
theorem Consistent.exists_assign (h : f.Consistent) (hr : f.rovers.find? rover = some r)
    (available : r.state.status = .available) (hm : f.missions.find? mission = some m)
    (pending : m.state.status = .pending) :
    ∃ f', f.assign rover mission = (.ok m.mission, f') ∧
      f' = f.put rover { r with state := .receiving mission, progress := .zero }
        mission { m with state := .assigned rover, attempts := m.attempts + 1 } ∧
      (f'.rovers.find? rover).bind RoverRecord.endpoint = r.endpoint ∧
      (∀ reason, f'.abandon mission reason = .ok (f.put
        rover { r with state := .available, progress := .zero } mission
        { m with state := .failed rover ⟨none, reason⟩, attempts := m.attempts + 1 })) ∧
      f'.revert mission = .ok (f.put rover { r with state := .available, progress := .zero }
        mission { m with state := .pending, attempts := m.attempts + 1 }) := by
  refine ⟨_, ?_, rfl, ?_, fun reason => f.update_put .receiving (.abandon reason), ?_⟩
  · -- What `assign` computes is the record as it is written out here.
    rw [← h.reserved_record hr available, ← h.assigned_eq hm pending]
    simp only [Fleet.assign, hr, available, hm, pending, ne_eq, not_true, if_false, Fleet.put]
  · rw [find?_put_rover]
    rfl
  · -- Reverting takes the mission to where it was, up to the number of attempts.
    rw [← h.reverted_eq hm pending (.assigned rover)]
    exact f.update_put .receiving .revert

end Fleet

namespace Registry

variable {π : Type} {r r' : Registry π} {rover mission : Int} {desk : Nat}

/-- A rover without an entry can be reserved. -/
theorem exists_reserve (free : r.entries.find? rover = none) (mission : Int) (now : Nat) :
    ∃ desk r', r.reserve rover mission now = some (desk, r') := by
  rw [reserve, contains_eq_false_iff.2 free]
  exact ⟨_, _, rfl⟩

/-- A reservation that is taken back leaves no entry. -/
theorem entries_remove (free : r.entries.find? rover = none)
    (hentries : r'.entries = r.entries.insert rover ⟨mission, desk⟩) :
    (r'.remove rover mission).entries = r.entries := by
  have hholds : r'.holds rover mission = true :=
    holds_iff.2 ⟨_, by rw [hentries, Table.find?_insert_self], rfl⟩
  rw [remove, if_pos hholds]
  simp only [hentries, Table.erase_insert free]

end Registry

namespace Coordinator

variable {c c' : Coordinator} {rover : Int} {r r' : RoverRecord} {m m' : MissionRecord}

/-- The rovers that a scan looks at are those that are available and have no
    entry. -/
theorem mem_freeRovers_iff : rover ∈ c.freeRovers ↔
    (∃ r, c.fleet.rovers.find? rover = some r ∧ r.state.status = .available) ∧
      c.dispatcher.registry.entries.find? rover = none := by
  simp only [freeRovers, Fleet.available, List.mem_filter, Fleet.mem_roversIn_iff, beq_iff_eq,
    Bool.not_eq_true', Registry.contains_eq_false_iff]

/-- They come in the order of their numbers. -/
theorem pairwise_freeRovers (c : Coordinator) : c.freeRovers.Pairwise (· < ·) :=
  (c.fleet.pairwise_roversIn _).filter _

/-! ### One rover and one mission -/

/-- A session that begins greets its rover, and changes neither records nor
    entries. -/
theorem beginSession_prepared {timing : Timing} {p : Mission} {s : Supervisor}
    (prepared : Supervisor.prepare timing rover p = .ok s) (c : Coordinator) (desk : Nat)
    (peer : SocketAddress) (now : Nat) :
    let c' := (c.beginSession desk s peer now).1
    c'.fleet = c.fleet ∧ c'.settings = c.settings ∧
      c'.dispatcher.registry.entries = c.dispatcher.registry.entries := by
  rcases Supervisor.of_prepare prepared with ⟨transfer, -, rfl⟩
  exact ⟨rfl, rfl, rfl⟩

/-- What becomes of a rover and a mission that a scan brings together: their
    records, and the entry of the rover. -/
inductive Meeting (timing : Timing) (rover : Int) (r : RoverRecord) (m : MissionRecord) :
    RoverRecord → MissionRecord → Option Entry → Prop where
  /-- A session begins. -/
  | begins {peer : SocketAddress} {s : Supervisor} (endpoint : r.endpoint = some peer)
      (prepared : Supervisor.prepare timing rover m.mission = .ok s) (desk : Nat) :
      Meeting timing rover r m
        { r with state := .receiving m.mission.id, progress := .zero }
        { m with state := .assigned rover, attempts := m.attempts + 1 }
        (some ⟨m.mission.id, desk⟩)
  /-- Nobody knows where the rover is. -/
  | unreachable (endpoint : r.endpoint = none) :
      Meeting timing rover r m
        { r with state := .available, progress := .zero }
        { m with state := .pending, attempts := m.attempts + 1 }
        none
  /-- The mission cannot be cut into fragments. -/
  | unsendable {peer : SocketAddress} {e : TransferError} (endpoint : r.endpoint = some peer)
      (refused : Supervisor.prepare timing rover m.mission = .error e) :
      Meeting timing rover r m
        { r with state := .available, progress := .zero }
        { m with state := .failed rover ⟨none, e.message⟩, attempts := m.attempts + 1 }
        none

/-- The records of a rover and of a mission and the entry of the rover have been
    written, and nothing else. -/
structure Writes (rover : Int) (r : RoverRecord) (mission : Int) (m : MissionRecord)
    (e? : Option Entry) (c c' : Coordinator) : Prop where
  fleet : c'.fleet = c.fleet.put rover r mission m
  entries : c'.dispatcher.registry.entries = e?.elim c.dispatcher.registry.entries
    (c.dispatcher.registry.entries.insert rover)
  settings : c'.settings = c.settings

/-- Only the entry of the rover can be another one than before. -/
theorem Writes.find?_entries {mission : Int} {e? : Option Entry}
    (h : Writes rover r mission m e? c c')
    (free : c.dispatcher.registry.entries.find? rover = none) (rover' : Int) :
    c'.dispatcher.registry.entries.find? rover' =
      if rover' = rover then e? else c.dispatcher.registry.entries.find? rover' := by
  rw [h.entries]
  cases e? with
  -- Nothing was entered, and nothing was there.
  | none =>
      split
      · rename_i hrover
        rw [hrover]
        exact free
      · rfl
  | some e => exact Table.find?_insert _ _ _ _

/-- A rover that is free and a mission that waits meet. -/
theorem exists_meeting (h : c.fleet.Consistent) (hr : c.fleet.rovers.find? rover = some r)
    (available : r.state.status = .available)
    (hm : c.fleet.missions.find? m.mission.id = some m) (pending : m.state.status = .pending)
    (free : c.dispatcher.registry.entries.find? rover = none) (now : Nat) :
    ∃ r' m' e?, Meeting c.settings.timing rover r m r' m' e? ∧
      let (started, c', _) := c.startSession rover m.mission.id now
      started = e?.isSome ∧ Writes rover r' m.mission.id m' e? c c' := by
  rcases Registry.exists_reserve free m.mission.id now with ⟨desk, reserved, hreserve⟩
  rcases Registry.of_reserve hreserve with ⟨-, -, -, hentries⟩
  have hremoved := Registry.entries_remove free hentries
  -- The two are tied first, whatever comes of it.
  rcases h.exists_assign hr available hm pending with
    ⟨tied, hassign, htied, hpeer, habandon, hrevert⟩
  -- The address is looked up before anybody tries to cut the mission.
  cases hendpoint : r.endpoint with
  | none =>
      rw [hendpoint] at hpeer
      refine ⟨_, _, _, .unreachable hendpoint, ?_⟩
      simp only [startSession, hreserve, hassign, hpeer, hrevert]
      exact ⟨rfl, rfl, hremoved, rfl⟩
  | some peer =>
      rw [hendpoint] at hpeer
      cases hprepare : Supervisor.prepare c.settings.timing rover m.mission with
      | error e =>
          refine ⟨_, _, _, .unsendable hendpoint hprepare, ?_⟩
          simp only [startSession, hreserve, hassign, hpeer, withFleet, hprepare, habandon]
          exact ⟨rfl, rfl, hremoved, rfl⟩
      | ok s =>
          refine ⟨_, _, _, .begins hendpoint hprepare desk, ?_⟩
          rcases beginSession_prepared hprepare
            ((c.withFleet tied).withRegistry reserved) desk peer now with
            ⟨hfleet, hsettings, hregistry⟩
          simp only [startSession, hreserve, hassign, hpeer, withFleet, hprepare]
          exact ⟨rfl, hfleet.trans htied, hregistry.trans hentries, hsettings⟩

/-! ### One after the other -/

variable {pair : Mission × Int} {pairs : List (Mission × Int)}

/-- Missions and rovers that can be brought together, each with the one at its
    side. -/
structure Ready (c : Coordinator) (pairs : List (Mission × Int)) : Prop where
  consistent : c.fleet.Consistent
  rovers : ∀ pair ∈ pairs, ∃ r, c.fleet.rovers.find? pair.2 = some r ∧
    r.state.status = .available
  missions : ∀ pair ∈ pairs, ∃ m, c.fleet.missions.find? pair.1.id = some m ∧
    m.mission = pair.1 ∧ m.state.status = .pending
  free : ∀ pair ∈ pairs, c.dispatcher.registry.entries.find? pair.2 = none
  distinct : pairs.Pairwise (fun p q => p.1.id ≠ q.1.id ∧ p.2 ≠ q.2)

/-- What becomes of a coordinator when missions and rovers are brought together,
    and of the number of sessions that have been started. -/
structure Meetings (pairs : List (Mission × Int)) (n : Nat) (c : Coordinator) (n' : Nat)
    (c' : Coordinator) : Prop where
  meets : ∀ p rover, (p, rover) ∈ pairs → ∃ r m r' m',
    c.fleet.rovers.find? rover = some r ∧ c.fleet.missions.find? p.id = some m ∧ m.mission = p ∧
    c'.fleet.rovers.find? rover = some r' ∧ c'.fleet.missions.find? p.id = some m' ∧
    Meeting c.settings.timing rover r m r' m' (c'.dispatcher.registry.entries.find? rover)
  rovers : ∀ rover, (∀ pair ∈ pairs, rover ≠ pair.2) →
    c'.fleet.rovers.find? rover = c.fleet.rovers.find? rover
  missions : ∀ mission, (∀ pair ∈ pairs, mission ≠ pair.1.id) →
    c'.fleet.missions.find? mission = c.fleet.missions.find? mission
  entries : ∀ rover, (∀ pair ∈ pairs, rover ≠ pair.2) →
    c'.dispatcher.registry.entries.find? rover = c.dispatcher.registry.entries.find? rover
  nextMission : c'.fleet.nextMission = c.fleet.nextMission
  count : c'.dispatcher.registry.entries.size + n = c.dispatcher.registry.entries.size + n'
  settings : c'.settings = c.settings

theorem Meetings.refl (n : Nat) (c : Coordinator) : Meetings [] n c n c :=
  ⟨nofun, fun _ _ => rfl, fun _ _ => rfl, fun _ _ => rfl, rfl, rfl, rfl⟩

/-- What has become of one rover and one mission is not touched by the
    others. -/
theorem Meetings.cons {c₁ : Coordinator} {n n₁ n' : Nat} (h : Meetings [pair] n c n₁ c₁)
    (h' : Meetings pairs n₁ c₁ n' c')
    (distinct : ∀ q ∈ pairs, pair.1.id ≠ q.1.id ∧ pair.2 ≠ q.2) :
    Meetings (pair :: pairs) n c n' c' where
  meets := by
    intro p rover hmem
    rcases List.mem_cons.1 hmem with rfl | hmem
    · -- What the first two have come to is still there in the end.
      rcases h.meets p rover (List.mem_singleton.2 rfl) with
        ⟨r, m, r', m', hr, hm, hp, hr', hm', hmeeting⟩
      have hrover : ∀ q ∈ pairs, rover ≠ q.2 := fun q hq => (distinct q hq).2
      refine ⟨r, m, r', m', hr, hm, hp, ?_, ?_, ?_⟩
      · rw [h'.rovers rover hrover, hr']
      · rw [h'.missions p.id (fun q hq => (distinct q hq).1), hm']
      · rw [h'.entries rover hrover]
        exact hmeeting
    · -- The others find their records as they were before the first two met.
      rcases h'.meets p rover hmem with ⟨r, m, r', m', hr, hm, hp, hr', hm', hmeeting⟩
      rcases distinct _ hmem with ⟨hid, hrover⟩
      refine ⟨r, m, r', m', ?_, ?_, hp, hr', hm', h.settings ▸ hmeeting⟩
      · rw [← h.rovers rover (by simpa using Ne.symm hrover), hr]
      · rw [← h.missions p.id (by simpa using Ne.symm hid), hm]
  rovers := by
    intro rover hrover
    rcases List.forall_mem_cons.1 hrover with ⟨hfirst, hrover⟩
    rw [h'.rovers rover hrover, h.rovers rover (by simpa using hfirst)]
  missions := by
    intro mission hmission
    rcases List.forall_mem_cons.1 hmission with ⟨hfirst, hmission⟩
    rw [h'.missions mission hmission, h.missions mission (by simpa using hfirst)]
  entries := by
    intro rover hrover
    rcases List.forall_mem_cons.1 hrover with ⟨hfirst, hrover⟩
    rw [h'.entries rover hrover, h.entries rover (by simpa using hfirst)]
  nextMission := h'.nextMission.trans h.nextMission
  count := by
    have := h.count
    have := h'.count
    omega
  settings := h'.settings.trans h.settings

/-- After a meeting a rover and a mission are tied, or both are free. -/
theorem Meeting.consistent {timing : Timing} {e? : Option Entry}
    (h : Meeting timing rover r m r' m' e?) {f : Fleet} (hf : f.Consistent)
    (hr : f.rovers.find? rover = some r) (available : r.state.status = .available)
    (hm : f.missions.find? m.mission.id = some m) (pending : m.state.status = .pending) :
    (f.put rover r' m.mission.id m').Consistent := by
  -- Both are free before, so the pair is one that can be replaced.
  have before : Matched rover m.mission.id r.state m.state := by
    rw [hf.available_eq hr available, hf.pending_eq hm pending]
    exact .inr ⟨.available, .pending⟩
  -- All three ways it goes leave a matched pair: tied, both free, or the mission failed.
  cases h with
  | begins endpoint prepared desk => exact hf.put hr hm before (.inl .receiving) rfl nofun
  | unreachable endpoint =>
      exact hf.put hr hm before (.inr ⟨.available, .pending⟩) rfl
        (fun _ => hf.reverted_eq hm pending .pending _)
  | unsendable endpoint refused =>
      exact hf.put hr hm before (.inr ⟨.available, .failed _ _⟩) rfl nofun

/-- One rover and one mission have met. -/
theorem Meeting.meetings {e? : Option Entry} (h : Meeting c.settings.timing rover r m r' m' e?)
    (hr : c.fleet.rovers.find? rover = some r)
    (hm : c.fleet.missions.find? m.mission.id = some m)
    (free : c.dispatcher.registry.entries.find? rover = none)
    (hwrites : Writes rover r' m.mission.id m' e? c c') (n : Nat) :
    Meetings [(m.mission, rover)] n c (if e?.isSome then n + 1 else n) c' where
  meets := by
    intro p rover' hmem
    cases List.mem_singleton.1 hmem
    refine ⟨r, m, r', m', hr, hm, rfl, ?_, ?_, ?_⟩
    · rw [hwrites.fleet, Fleet.find?_put_rover]
    · rw [hwrites.fleet, Fleet.find?_put_mission]
    · rw [hwrites.find?_entries free, if_pos rfl]
      exact h
  rovers := by
    intro rover' hrover
    rw [hwrites.fleet, Fleet.find?_put_rover_of_ne (hrover _ (List.mem_singleton.2 rfl))]
  missions := by
    intro mission hmission
    rw [hwrites.fleet, Fleet.find?_put_mission_of_ne (hmission _ (List.mem_singleton.2 rfl))]
  entries := by
    intro rover' hrover
    rw [hwrites.find?_entries free, if_neg (hrover _ (List.mem_singleton.2 rfl))]
  nextMission := by
    rw [hwrites.fleet]
    rfl
  count := by
    rw [hwrites.entries]
    cases e? with
    | none => rfl
    -- The entry is a new one, so there is one more.
    | some e =>
        rw [Option.elim_some, Table.size_insert free e, Nat.add_assoc, Nat.add_comm 1 n]
        rfl
  settings := hwrites.settings

/-- When one rover and one mission have met, the others can still be brought
    together. -/
theorem Ready.writes {mission : Int} {e? : Option Entry} (h : Ready c pairs)
    (hwrites : Writes rover r mission m e? c c')
    (hconsistent : (c.fleet.put rover r mission m).Consistent)
    (free : c.dispatcher.registry.entries.find? rover = none)
    (distinct : ∀ q ∈ pairs, mission ≠ q.1.id ∧ rover ≠ q.2) : Ready c' pairs where
  consistent := hwrites.fleet ▸ hconsistent
  -- Everything that is still to meet has other names than the two that have met.
  rovers := by
    intro q hq
    rw [hwrites.fleet, Fleet.find?_put_rover_of_ne (distinct q hq).2.symm]
    exact h.rovers q hq
  missions := by
    intro q hq
    rw [hwrites.fleet, Fleet.find?_put_mission_of_ne (distinct q hq).1.symm]
    exact h.missions q hq
  free := by
    intro q hq
    rw [hwrites.find?_entries free, if_neg (distinct q hq).2.symm]
    exact h.free q hq
  distinct := h.distinct

/-- The first mission and the first rover are brought together, and the others
    remain as they are. -/
theorem Ready.scanOne (h : Ready c (pair :: pairs)) (n : Nat) (packets : List Packet)
    (now : Nat) :
    let (n', c', _) := scanOne now (n, c, packets) pair
    Meetings [pair] n c n' c' ∧ Ready c' pairs := by
  rcases pair with ⟨p, rover⟩
  rcases List.forall_mem_cons.1 h.rovers with ⟨⟨r, hr, available⟩, hrovers⟩
  rcases List.forall_mem_cons.1 h.missions with ⟨⟨m, hm, rfl, pending⟩, hmissions⟩
  rcases List.forall_mem_cons.1 h.free with ⟨free, hfree⟩
  rcases List.pairwise_cons.1 h.distinct with ⟨hdistinct, hpairs⟩
  have hrest : Ready c pairs := ⟨h.consistent, hrovers, hmissions, hfree, hpairs⟩
  rcases exists_meeting h.consistent hr available hm pending free now with
    ⟨r', m', e?, hmeeting, hstarted⟩
  have hconsistent := hmeeting.consistent h.consistent hr available hm pending
  -- Whatever `startSession` gives, it is what the meeting says.
  simp only [Coordinator.scanOne]
  generalize c.startSession rover m.mission.id now = result at hstarted ⊢
  rcases result with ⟨started, c₁, more⟩
  rcases hstarted with ⟨rfl, hwrites⟩
  exact ⟨hmeeting.meetings hr hm free hwrites n, hrest.writes hwrites hconsistent free hdistinct⟩

/-- They are all brought together. -/
theorem Ready.foldl_scanOne (h : Ready c pairs) (n : Nat) (packets : List Packet) (now : Nat) :
    let (n', c', _) := pairs.foldl (Coordinator.scanOne now) (n, c, packets)
    Meetings pairs n c n' c' := by
  induction pairs generalizing n c packets with
  | nil => exact .refl n c
  | cons pair pairs ih =>
      rcases h.scanOne n packets now with ⟨hfirst, hrest⟩
      exact hfirst.cons (ih hrest _ _) (List.pairwise_cons.1 h.distinct).1

/-! ### A whole scan -/

/-- What a scan finds can be brought together. -/
theorem ready (h : c.fleet.Consistent) :
    Ready c (c.fleet.pendingMissions.zip c.freeRovers) where
  consistent := h
  rovers := fun _ hq => (mem_freeRovers_iff.1 (List.of_mem_zip hq).2).1
  missions := fun _ hq => h.mem_pendingMissions_iff.1 (List.of_mem_zip hq).1
  free := fun _ hq => (mem_freeRovers_iff.1 (List.of_mem_zip hq).2).2
  distinct := (pairwise_zip h.pairwise_id c.pairwise_freeRovers).imp
    (fun ⟨hid, hrover⟩ => ⟨hid, Int.ne_of_lt hrover⟩)

/-- What a scan is to do. The missions that wait are looked at in their order
    and the rovers that are free in theirs, and so many sessions are started. -/
structure Scanned (waiting : List Mission) (free : List Int) (c : Coordinator) (n : Nat)
    (c' : Coordinator) : Prop where
  /-- Exactly the missions that are pending wait. -/
  waiting_iff : ∀ p, p ∈ waiting ↔
    ∃ m, c.fleet.missions.find? p.id = some m ∧ m.mission = p ∧ m.state.status = .pending
  /-- Higher priorities come first, and lower numbers first among equals. -/
  waiting_sorted : waiting.Pairwise (fun p q =>
    q.priority < p.priority ∨ p.priority = q.priority ∧ p.id < q.id)
  /-- Exactly the rovers that are available and have no entry are free. -/
  free_iff : ∀ rover, rover ∈ free ↔
    (∃ r, c.fleet.rovers.find? rover = some r ∧ r.state.status = .available) ∧
      c.dispatcher.registry.entries.find? rover = none
  free_sorted : free.Pairwise (· < ·)
  /-- A rover with an address and a mission that can be sent are tied, and the
      rover has an entry. -/
  begins : ∀ p rover r m, (p, rover) ∈ waiting.zip free →
    c.fleet.rovers.find? rover = some r → c.fleet.missions.find? p.id = some m →
    ∀ peer s, r.endpoint = some peer →
      Supervisor.prepare c.settings.timing rover p = .ok s →
        c'.fleet.rovers.find? rover =
          some { r with state := .receiving p.id, progress := .zero } ∧
        c'.fleet.missions.find? p.id =
          some { m with state := .assigned rover, attempts := m.attempts + 1 } ∧
        ∃ desk, c'.dispatcher.registry.entries.find? rover = some ⟨p.id, desk⟩
  /-- If the rover has no address, the mission waits again. -/
  unreachable : ∀ p rover r m, (p, rover) ∈ waiting.zip free →
    c.fleet.rovers.find? rover = some r → c.fleet.missions.find? p.id = some m →
    r.endpoint = none →
      c'.fleet.rovers.find? rover = some { r with state := .available, progress := .zero } ∧
      c'.fleet.missions.find? p.id =
        some { m with state := .pending, attempts := m.attempts + 1 } ∧
      c'.dispatcher.registry.entries.find? rover = none
  /-- If it has one, but the mission cannot be sent, the mission has failed. -/
  unsendable : ∀ p rover r m, (p, rover) ∈ waiting.zip free →
    c.fleet.rovers.find? rover = some r → c.fleet.missions.find? p.id = some m →
    ∀ peer e, r.endpoint = some peer →
      Supervisor.prepare c.settings.timing rover p = .error e →
        c'.fleet.rovers.find? rover = some { r with state := .available, progress := .zero } ∧
        c'.fleet.missions.find? p.id = some
          { m with state := .failed rover ⟨none, e.message⟩, attempts := m.attempts + 1 } ∧
        c'.dispatcher.registry.entries.find? rover = none
  /-- All other rovers, missions and entries stay as they are. -/
  rovers : ∀ rover, (∀ pair ∈ waiting.zip free, rover ≠ pair.2) →
    c'.fleet.rovers.find? rover = c.fleet.rovers.find? rover
  missions : ∀ mission, (∀ pair ∈ waiting.zip free, mission ≠ pair.1.id) →
    c'.fleet.missions.find? mission = c.fleet.missions.find? mission
  entries : ∀ rover, (∀ pair ∈ waiting.zip free, rover ≠ pair.2) →
    c'.dispatcher.registry.entries.find? rover = c.dispatcher.registry.entries.find? rover
  nextMission : c'.fleet.nextMission = c.fleet.nextMission
  /-- Every session that is counted has added an entry. -/
  count : c'.dispatcher.registry.entries.size = c.dispatcher.registry.entries.size + n

/-- What becomes of a rover and a mission whose records are known. -/
theorem Meetings.of_mem {n n' : Nat} (h : Meetings pairs n c n' c') {p : Mission}
    (hmem : (p, rover) ∈ pairs) (hr : c.fleet.rovers.find? rover = some r)
    (hm : c.fleet.missions.find? p.id = some m) :
    m.mission = p ∧ ∃ r' m' e?, c'.fleet.rovers.find? rover = some r' ∧
      c'.fleet.missions.find? p.id = some m' ∧
      c'.dispatcher.registry.entries.find? rover = e? ∧
      Meeting c.settings.timing rover r m r' m' e? := by
  rcases h.meets p rover hmem with ⟨r₀, m₀, r', m', hr₀, hm₀, hp, hr', hm', hmeeting⟩
  cases hr.symm.trans hr₀
  cases hm.symm.trans hm₀
  exact ⟨hp, r', m', _, hr', hm', rfl, hmeeting⟩

/-- What meets in a scan is what is to meet. -/
theorem scanned (h : c.fleet.Consistent) {n : Nat}
    (hmeetings : Meetings (c.fleet.pendingMissions.zip c.freeRovers) 0 c n c') :
    Scanned c.fleet.pendingMissions c.freeRovers c n c' where
  waiting_iff := fun p => h.mem_pendingMissions_iff
  waiting_sorted := h.pairwise_pendingMissions
  free_iff := fun rover => mem_freeRovers_iff
  free_sorted := c.pairwise_freeRovers
  -- What has become of a pair is one of three meetings. Whether the rover has an address and
  -- whether its mission can be cut decides which, so in each clause two of them are out.
  begins := by
    intro p rover r m hmem hr hm peer s hendpoint hprepared
    rcases hmeetings.of_mem hmem hr hm with ⟨rfl, r', m', e?, hr', hm', he, hmeeting⟩
    rw [hr', hm', he]
    cases hmeeting with
    | begins endpoint prepared desk => exact ⟨rfl, rfl, desk, rfl⟩
    | unreachable endpoint => cases hendpoint.symm.trans endpoint
    | unsendable endpoint refused => cases hprepared.symm.trans refused
  unreachable := by
    intro p rover r m hmem hr hm hendpoint
    rcases hmeetings.of_mem hmem hr hm with ⟨rfl, r', m', e?, hr', hm', he, hmeeting⟩
    rw [hr', hm', he]
    cases hmeeting with
    | begins endpoint prepared desk => cases hendpoint.symm.trans endpoint
    | unreachable endpoint => exact ⟨rfl, rfl, rfl⟩
    | unsendable endpoint refused => cases hendpoint.symm.trans endpoint
  unsendable := by
    intro p rover r m hmem hr hm peer e hendpoint hrefused
    rcases hmeetings.of_mem hmem hr hm with ⟨rfl, r', m', e?, hr', hm', he, hmeeting⟩
    rw [hr', hm', he]
    cases hmeeting with
    | begins endpoint prepared desk => cases hrefused.symm.trans prepared
    | unreachable endpoint => cases hendpoint.symm.trans endpoint
    | unsendable endpoint refused =>
        cases hrefused.symm.trans refused
        exact ⟨rfl, rfl, rfl⟩
  rovers := hmeetings.rovers
  missions := hmeetings.missions
  entries := hmeetings.entries
  nextMission := hmeetings.nextMission
  count := hmeetings.count

/-- Take any fleet and any sessions. A scan gives the missions that wait, in their
    order, to the rovers that are free, in theirs. A session begins for each pair
    unless nobody knows where the rover is, which is noticed first, or the mission
    cannot be sent. Then the rover is available as before and has no entry, and
    the mission waits again in the one case and has failed in the other. It counts
    as assigned once more in every case. Nothing else changes, and the sessions
    that are counted are those whose entries are new. -/
theorem scan_assigns (c₀ : Coordinator) (ops : List Fleet.Operation) (now : Nat) :
    let c := c₀.withFleet (Fleet.empty.performAll ops)
    let (n, c', _) := c.scan now
    Scanned c.fleet.pendingMissions c.freeRovers c n c' := by
  intro c
  have h : c.fleet.Consistent := Fleet.consistent_empty.performAll ops
  exact scanned h ((ready h).foldl_scanOne 0 [] now)

end Coordinator

end RoverDispatch
