import RoverDispatch.Fleet.Draft
import RoverDispatch.Fleet.Sweep
import RoverDispatch.Node.Settings
import RoverDispatch.Proofs.Session.Supervisors

/-!
# Stale Sessions

Which sessions a sweep takes for dead.

Two clocks run while a mission is watched. The supervisor waits for a number
of update intervals, counted from the last news; the sweep waits for a fixed
time, counted from whatever was heard of the rover last. They know nothing of
each other. A sweep reads nothing but the status that the session lets others
know, so the question whether it can remove a session that is still waiting
is a question about that status: how old can the last activity in it be while
the deadline of the session is still to come?

The answer rests on one fact about the supervisor. A deadline of a watched
mission is only ever set by a message, as a wait that begins when the message
arrives, and that is also when the status is touched. So the deadline is never
further away from the last activity than one wait, and a sweep spares every
session that waits when the wait is no longer than what the sweep allows. It
is just as easy to see that nothing less will do: a rover that accepts the
mission and is silent from then on makes the two clocks start together.

## Main definitions

* `Supervisor.Rewatches`: Where the deadline of a watched mission comes from.
* `PublicSession`: A session with the status by which others know it.
* `PublicSession.Turn`, `PublicSession.turn`, `PublicSession.run`: What it goes
  through.
* `PublicSession.Timely`: The deadline is one wait after some activity.

## Theorems

* `Registry.find?_remove`: What is left after a removal.
* `Dispatcher.mem_roversWith_iff`: A sweep lists a session by its finding.
* `Dispatcher.holds_sweep_iff`: A sweep leaves exactly the sessions it is to
  keep.
* `Supervisor.Receives.rewatches`, `Supervisor.Polls.rewatches`: Only messages
  set the deadline of a watched mission.
* `PublicSession.Timely.run`: Every run keeps the deadline near the activity.
* `PublicSession.Timely.finding_eq`: A short wait is spared.
* `PublicSession.watched_spared`: With the usual settings, sweeps spare the
  sessions that wait up to an update interval of fifteen seconds, and no
  further.
-/

namespace RoverDispatch

/-! ### What a sweep does about a session -/

namespace Registry

variable {π : Type} {r : Registry π} {rover mission : Int} {status : SessionStatus}

theorem holds_iff : r.holds rover mission = true ↔
    ∃ e, r.entries.find? rover = some e ∧ e.mission = mission := by
  simp only [holds, Option.any_eq_true, decide_eq_true_eq]

theorem mem_sessions_iff : (rover, mission, status) ∈ r.sessions ↔
    ∃ e d, r.entries.find? rover = some e ∧ r.desks.find? e.desk = some d ∧
      e.mission = mission ∧ d.status = status := by
  rw [sessions, List.mem_filterMap]
  constructor
  · rintro ⟨⟨k, e⟩, he, hd⟩
    rcases Option.map_eq_some_iff.1 hd with ⟨d, hfind, htriple⟩
    cases htriple
    exact ⟨e, d, Table.mem_entries_iff.1 he, hfind, rfl, rfl⟩
  · rintro ⟨e, d, he, hd, rfl, rfl⟩
    refine ⟨(rover, e), Table.mem_entries_iff.2 he, ?_⟩
    rw [hd]
    rfl

/-- A rover has one session and one status. -/
theorem eq_of_mem_sessions {mission' : Int} {status' : SessionStatus}
    (h : (rover, mission, status) ∈ r.sessions) (h' : (rover, mission', status') ∈ r.sessions) :
    mission' = mission ∧ status' = status := by
  rcases mem_sessions_iff.1 h with ⟨e, d, he, hd, rfl, rfl⟩
  rcases mem_sessions_iff.1 h' with ⟨e', d', he', hd', rfl, rfl⟩
  rw [he] at he'
  cases he'
  rw [hd] at hd'
  cases hd'
  exact ⟨rfl, rfl⟩

/-- A removal takes away the entry of one rover if it is for one mission. -/
theorem find?_remove {rover' mission' : Int} {e : Entry} :
    (r.remove rover' mission').entries.find? rover = some e ↔
      r.entries.find? rover = some e ∧ ¬ (rover' = rover ∧ mission' = e.mission) := by
  rw [remove]
  split
  · rename_i hheld
    rcases holds_iff.1 hheld with ⟨e', he', rfl⟩
    -- The entry that goes is the only one of its rover.
    rw [Table.find?_erase]
    by_cases hrover : rover = rover'
    · subst hrover
      simp only [if_true, reduceCtorEq, he', Option.some.injEq, false_iff, true_and, not_and,
        Decidable.not_not]
      exact congrArg Entry.mission
    · simp only [if_neg hrover, Ne.symm hrover, false_and, not_false_eq_true, and_true]
  · rename_i hfree
    refine ⟨fun he => ⟨he, ?_⟩, And.left⟩
    rintro ⟨rfl, rfl⟩
    exact hfree (holds_iff.2 ⟨e, he, rfl⟩)

theorem desks_remove (r : Registry π) (rover mission : Int) :
    (r.remove rover mission).desks = r.desks := by
  rw [remove]
  split <;> rfl

end Registry

namespace Dispatcher

variable {π : Type} {limits : SweepLimits} {now : Nat} {rover mission : Int}
  {status : SessionStatus}

theorem registry_sweepSession (d : Dispatcher π) (session : Int × Int × SessionStatus) :
    (sweepSession limits now d session).registry =
      if finding limits now session.2.2 = .keep then d.registry
      else d.registry.remove session.1 session.2.1 := by
  rw [sweepSession]
  split <;> rename_i hfinding <;> simp only [hfinding, reduceCtorEq, if_true, if_false]

/-- The entries that are left after some sessions have been looked at. -/
theorem find?_foldl_sweepSession (sessions : List (Int × Int × SessionStatus))
    (d : Dispatcher π) {e : Entry} :
    (sessions.foldl (sweepSession limits now) d).registry.entries.find? rover = some e ↔
      d.registry.entries.find? rover = some e ∧
        ∀ status, (rover, e.mission, status) ∈ sessions → finding limits now status = .keep := by
  induction sessions generalizing d with
  | nil => simp only [List.foldl_nil, List.not_mem_nil, false_implies, implies_true, and_true]
  | cons session sessions ih =>
      rcases session with ⟨rover', mission', status'⟩
      rw [List.foldl_cons, ih, registry_sweepSession]
      simp only [List.mem_cons, Prod.mk.injEq]
      by_cases hkeep : finding limits now status' = .keep
      · -- Nothing happens to this one, so only the others count.
        rw [if_pos hkeep]
        refine and_congr_right (fun _ => forall_congr' (fun status => ?_))
        refine ⟨fun h hmem => ?_, fun h hmem => h (.inr hmem)⟩
        rcases hmem with ⟨-, -, rfl⟩ | hmem
        · exact hkeep
        · exact h hmem
      · -- It is removed, which matters if it is the one that is asked about.
        rw [if_neg hkeep, Registry.find?_remove, and_assoc]
        refine and_congr_right (fun _ => ⟨?_, fun h => ⟨?_, fun status hmem => h status (.inr hmem)⟩⟩)
        · rintro ⟨hother, h⟩ status (⟨rfl, hmission, -⟩ | hmem)
          · exact absurd ⟨rfl, hmission.symm⟩ hother
          · exact h status hmem
        · rintro ⟨rfl, rfl⟩
          exact hkeep (h status' (.inl ⟨rfl, rfl, rfl⟩))

/-- A sweep lists a rover under what it finds about its session. -/
theorem mem_roversWith_iff {d : Dispatcher π} (h : (rover, mission, status) ∈ d.registry.sessions)
    (f : Finding) :
    rover ∈ roversWith limits now f d.registry.sessions ↔ finding limits now status = f := by
  simp only [roversWith, List.mem_map, List.mem_filter, beq_iff_eq]
  constructor
  · rintro ⟨⟨rover', mission', status'⟩, ⟨hmem, hfinding⟩, rfl⟩
    rcases Registry.eq_of_mem_sessions h hmem with ⟨rfl, rfl⟩
    exact hfinding
  · intro hfinding
    exact ⟨_, ⟨h, hfinding⟩, rfl⟩

/-- The entries that a sweep leaves. -/
theorem find?_sweep (d : Dispatcher π) {e : Entry} :
    (d.sweep limits now).2.registry.entries.find? rover = some e ↔
      d.registry.entries.find? rover = some e ∧ ∀ status,
        (rover, e.mission, status) ∈ d.registry.sessions → finding limits now status = .keep :=
  find?_foldl_sweepSession d.registry.sessions d

/-- A sweep leaves a session exactly when it is to be kept. -/
theorem holds_sweep_iff {d : Dispatcher π} (h : (rover, mission, status) ∈ d.registry.sessions) :
    (d.sweep limits now).2.registry.holds rover mission = true ↔
      finding limits now status = .keep := by
  simp only [Registry.holds_iff, find?_sweep]
  constructor
  · rintro ⟨e, ⟨-, hall⟩, rfl⟩
    exact hall status h
  · intro hkeep
    rcases Registry.mem_sessions_iff.1 h with ⟨e, desk, he, -, rfl, -⟩
    refine ⟨e, ⟨he, fun status' h' => ?_⟩, rfl⟩
    rw [(Registry.eq_of_mem_sessions h h').2]
    exact hkeep

end Dispatcher

/-! ### Where the deadline of a watched mission comes from -/

namespace Supervisor

/-- The deadline of a mission that is watched after an input was there before
    it, or it is a wait from the time of the message that the input was. -/
structure Rewatches (s : Supervisor) (message : Option Nat) (s' : Supervisor) : Prop where
  timing : s'.timing = s.timing
  mission : s'.mission = s.mission
  deadline : ∀ d, s'.phase = .watching d → s.phase = .watching d ∨
    ∃ now ∈ message, d = later now (s.timing.progressTimeout s.mission.updateInterval)

variable {s s' : Supervisor} {m : Message} {now : Nat} {message : Option Nat}
  {r : SupervisorReaction}

theorem Rewatches.of_same (timing : s'.timing = s.timing) (mission : s'.mission = s.mission)
    (phase : s'.phase = s.phase) : s.Rewatches message s' :=
  ⟨timing, mission, fun _ h => .inl (phase ▸ h)⟩

theorem Rewatches.of_other (timing : s'.timing = s.timing) (mission : s'.mission = s.mission)
    (phase : ∀ d, s'.phase ≠ .watching d) : s.Rewatches message s' :=
  ⟨timing, mission, fun d h => absurd h (phase d)⟩

theorem Rewatches.of_watch (timing : s'.timing = s.timing) (mission : s'.mission = s.mission)
    (phase : s'.phase = .watching (later now (s.timing.progressTimeout s.mission.updateInterval))) :
    s.Rewatches (some now) s' := by
  refine ⟨timing, mission, fun d h => .inr ⟨now, rfl, ?_⟩⟩
  rw [phase] at h
  cases h
  rfl

theorem Supervises.rewatches (h : Supervises s m now r) : s.Rewatches (some now) r.state := by
  cases h with
  | recovers known => exact .of_same rfl rfl rfl
  | progress new kind payload => exact .of_watch rfl rfl rfl
  | ends new outcome => exact .of_other rfl rfl nofun
  | malformed new progress outcome => exact .of_same rfl rfl rfl

/-- A message sets the deadline to a wait from its arrival, if at all. -/
theorem Receives.rewatches (h : Receives s m now r) : s.Rewatches (some now) r.state := by
  cases h with
  | foreign foreign => exact .of_same rfl rfl rfl
  | useless report => exact .of_same rfl rfl rfl
  | transfers phase kind available => exact .of_other rfl rfl nofun
  | declined phase kind unavailable => exact .of_other rfl rfl nofun
  | accepted phase kind complete => exact .of_watch rfl rfl rfl
  | asked phase kind missing => exact .of_other rfl rfl nofun
  | acceptedReport phase report supervises =>
      have hr := supervises.rewatches
      refine ⟨hr.timing, hr.mission, fun d hd => .inr ⟨now, rfl, ?_⟩⟩
      -- The deadline before the report is the one that the acceptance has set.
      rcases hr.deadline d hd with hwatch | ⟨t, ht, rfl⟩
      · cases hwatch
        rfl
      · cases ht
        rfl
  | reported phase report supervises =>
      have hr := supervises.rewatches
      exact ⟨hr.timing, hr.mission, hr.deadline⟩
  | acknowledged phase report => exact .of_same rfl rfl rfl

/-- Time sets no deadline of a watched mission. -/
theorem Polls.rewatches (h : Polls s now r) : s.Rewatches none r.state := by
  cases h with
  | quiet early => exact .of_same rfl rfl rfl
  | greets phase due more => exact .of_other rfl rfl nofun
  | unresponsive phase due spent => exact .of_other rfl rfl nofun
  | resends phase due more => exact .of_other rfl rfl nofun
  | unconfirmed phase due spent => exact .of_other rfl rfl nofun
  | silent phase due => exact .of_other rfl rfl nofun
  | farewells phase left due => exact .of_other rfl rfl nofun

theorem Greets.rewatches (h : Greets s now r) : s.Rewatches none r.state := by
  cases h with
  | quiet phase => exact .of_same rfl rfl rfl
  | opens phase => exact .of_other rfl rfl nofun

theorem Transmits.rewatches (h : Transmits s now s') : s.Rewatches none s' := by
  cases h with
  | quiet phase => exact .of_same rfl rfl rfl
  | waits phase => exact .of_other rfl rfl nofun

end Supervisor

/-! ### Sessions and their statuses -/

/-- A session with the status by which others know it. -/
structure PublicSession where
  supervisor : Supervisor
  status : SessionStatus
  deriving DecidableEq, Inhabited

namespace PublicSession

/-- What a session goes through. -/
inductive Turn where
  | greet (now : Nat)
  | hear (m : Message) (now : Nat)
  | wait (now : Nat)
  /-- The messages have been sent. -/
  | sent (now : Nat)
  deriving DecidableEq, Inhabited

/-- A session that has just been reserved. -/
def start (supervisor : Supervisor) (reserved : Nat) : PublicSession :=
  ⟨supervisor, .start reserved⟩

/-- A session makes its status known. -/
def known (supervisor : Supervisor) (status : SessionStatus) : PublicSession :=
  ⟨supervisor, status.publish supervisor⟩

/-- The status is touched by what the rover says, and made known after every
    turn. -/
def turn (p : PublicSession) : Turn → PublicSession
  | .greet now => known (p.supervisor.greet now).state p.status
  | .hear m now => known (p.supervisor.receive m now).state (p.status.touch now)
  | .wait now => known (p.supervisor.poll now).state p.status
  | .sent now => known (p.supervisor.transmitted now) p.status

/-- What becomes of a session that goes through some turns. -/
def run (p : PublicSession) (turns : List Turn) : PublicSession := turns.foldl turn p

/-- The status tells whether the session has ended, and as long as the mission
    is watched, the deadline is one wait after a time that is no later than
    the last activity in the status. -/
structure Timely (t : Timing) (m : Mission) (p : PublicSession) : Prop where
  timing : p.supervisor.timing = t
  mission : p.supervisor.mission = m
  terminal : p.status.terminal = p.supervisor.isTerminal
  deadline : ∀ d, p.supervisor.phase = .watching d → ∃ since ≤ p.status.lastActivity,
    d = later since (t.progressTimeout m.updateInterval)

section Timely

variable {t : Timing} {m : Mission} {p : PublicSession}

/-- What every turn comes to: a session that sets its deadline at a time that
    its status has noted stays timely. -/
theorem Timely.known {message : Option Nat} {s : Supervisor} {status : SessionStatus}
    (h : Timely t m p) (hs : p.supervisor.Rewatches message s)
    (hstatus : p.status.lastActivity ≤ status.lastActivity)
    (hnoted : ∀ now ∈ message, now ≤ status.lastActivity) : Timely t m (known s status) := by
  have hlast : status.lastActivity ≤ (status.publish s).lastActivity := Nat.le_max_left _ _
  refine ⟨hs.timing.trans h.timing, hs.mission.trans h.mission, rfl, fun d hd => ?_⟩
  -- Either the deadline was there before, and its time was noted before, or it is new.
  rcases hs.deadline d hd with hbefore | ⟨now, hnow, rfl⟩
  · rcases h.deadline d hbefore with ⟨since, hsince, hdeadline⟩
    exact ⟨since, Nat.le_trans (Nat.le_trans hsince hstatus) hlast, hdeadline⟩
  · rw [h.timing, h.mission]
    exact ⟨now, Nat.le_trans (hnoted now hnow) hlast, rfl⟩

theorem Timely.turn (h : Timely t m p) (next : Turn) : Timely t m (p.turn next) := by
  cases next with
  | greet now => exact h.known (p.supervisor.greets now).rewatches (Nat.le_refl _) nofun
  | hear x now =>
      refine h.known (p.supervisor.receives x now).rewatches (Nat.le_max_left _ _)
        (fun since hsince => ?_)
      cases hsince
      exact Nat.le_max_right _ _
  | wait now => exact h.known (p.supervisor.polls now).rewatches (Nat.le_refl _) nofun
  | sent now => exact h.known (p.supervisor.transmits now).rewatches (Nat.le_refl _) nofun

theorem Timely.run (h : Timely t m p) (turns : List Turn) : Timely t m (p.run turns) := by
  induction turns generalizing p with
  | nil => exact h
  | cons next turns ih => exact ih (h.turn next)

theorem Timely.start {rover : Int} {s : Supervisor} (hs : Supervisor.prepare t rover m = .ok s)
    (reserved : Nat) : Timely t m (start s reserved) := by
  rcases Supervisor.of_prepare hs with ⟨transfer, -, rfl⟩
  exact ⟨rfl, rfl, rfl, nofun⟩

/-- A session that waits is kept by every sweep that allows as much silence as
    it does. -/
theorem Timely.finding_eq {limits : SweepLimits} {deadline now : Nat} (h : Timely t m p)
    (hwatched : p.supervisor.phase = .watching deadline) (hearly : now < deadline)
    (hwait : t.progressTimeout m.updateInterval ≤ limits.inactivity + 1) :
    Dispatcher.finding limits now p.status = .keep := by
  have hterminal : p.status.terminal = false := by
    rw [h.terminal, Supervisor.isTerminal, Supervisor.outcome?_eq hwatched]
    rfl
  rcases h.deadline deadline hwatched with ⟨since, hsince, rfl⟩
  have hdeadline : later since (t.progressTimeout m.updateInterval) ≤
      since + t.progressTimeout m.updateInterval := Nat.min_le_right _ _
  rw [Dispatcher.finding, hterminal, if_neg Bool.false_ne_true, if_pos (by omega)]

end Timely

/-! ### The usual settings -/

/-- The rover takes the mission at once, and is never heard of again. -/
def acceptance (rover mission : Int) : List Turn :=
  let answer : Message := { kind := .response, sender := rover, receiver := coordinatorId, mission }
  [.greet 0, .hear { answer with success := true } 0, .sent 0,
    .hear { answer with kind := .ack, payload := .ack ⟨[], false⟩ } 0]

theorem run_acceptance {t : Timing} {rover : Int} {m : Mission} {s : Supervisor}
    (hs : Supervisor.prepare t rover m = .ok s) :
    let p := (start s 0).run (acceptance rover m.id)
    p.supervisor.phase = .watching (later 0 (t.progressTimeout m.updateInterval)) ∧
      p.status = .start 0 := by
  rcases Supervisor.of_prepare hs with ⟨transfer, -, rfl⟩
  simp only [acceptance, run, List.foldl_cons, List.foldl_nil, turn, known, start,
    Supervisor.greet, Supervisor.receive, Supervisor.onResponse, Supervisor.transmitted,
    Supervisor.onAck, Supervisor.onMissing, Supervisor.missingIn, and_self, if_true]
  exact ⟨rfl, rfl⟩

end PublicSession

/-- A rover whose entry has just been reserved has a session without
    activity. -/
theorem Registry.mem_sessions_of_reserve {π : Type} {r r' : Registry π} {rover mission : Int}
    {now desk : Nat} (h : r.reserve rover mission now = some (desk, r')) :
    (rover, mission, .start now) ∈ r'.sessions := by
  rw [reserve] at h
  split at h
  · cases h
  · cases h
    refine mem_sessions_iff.2 ⟨⟨mission, r.nextDesk⟩, ⟨.start now, [], true⟩, ?_, ?_, rfl, rfl⟩
    · rw [Table.find?_insert, if_pos rfl]
    · rw [Table.find?_insert, if_pos rfl]

namespace PublicSession

/-- With the usual settings, a sweep spares a session whose deadline is still
    to come if the update interval of its mission is at most fifteen seconds,
    whatever the session has gone through and whatever else there is. With any
    longer interval there is a session that a sweep removes before its
    deadline, since the wait of the session is then longer than the silence
    that the sweep allows. -/
theorem watched_spared {π : Type} {rover : Int} {m : Mission} {s : Supervisor}
    (hs : Supervisor.prepare ({} : CoordinatorSettings).timing rover m = .ok s) :
    let settings : CoordinatorSettings := {}
    let limits : SweepLimits := ⟨settings.inactivity, settings.cooldown⟩
    (m.updateInterval ≤ 15 →
      ∀ (reserved : Nat) (turns : List Turn) (d : Dispatcher π) (deadline now : Nat),
        let p := (start s reserved).run turns
        (rover, m.id, p.status) ∈ d.registry.sessions →
        p.supervisor.phase = .watching deadline → now < deadline →
        rover ∉ (d.sweep limits now).1.stale ∧
          (d.sweep limits now).2.registry.holds rover m.id = true) ∧
    (15 < m.updateInterval →
      ∃ (reserved : Nat) (turns : List Turn) (d : Dispatcher π) (deadline now : Nat),
        let p := (start s reserved).run turns
        (rover, m.id, p.status) ∈ d.registry.sessions ∧
        p.supervisor.phase = .watching deadline ∧ now < deadline ∧
        rover ∈ (d.sweep limits now).1.stale ∧
          (d.sweep limits now).2.registry.holds rover m.id = false) := by
  intro settings limits
  have htimeout : settings.timing.progressTimeout m.updateInterval =
      if 0 < m.updateInterval then min maxTime (min maxTime (m.updateInterval.toNat * 1000) * 8)
      else 40000 := rfl
  constructor
  · intro hinterval reserved turns d deadline now p hmem hwatched hearly
    -- Eight intervals of fifteen seconds are just the two minutes that the sweep allows.
    have hwait : settings.timing.progressTimeout m.updateInterval ≤ limits.inactivity + 1 := by
      rw [htimeout, show limits.inactivity = 120000 from rfl]
      split <;> omega
    have hkeep : Dispatcher.finding limits now p.status = .keep :=
      ((Timely.start hs reserved).run turns).finding_eq hwatched hearly hwait
    refine ⟨?_, (Dispatcher.holds_sweep_iff hmem).2 hkeep⟩
    intro hstale
    have hremove := (Dispatcher.mem_roversWith_iff hmem .removeStale).1 hstale
    rw [hkeep] at hremove
    cases hremove
  · intro hinterval
    rcases run_acceptance hs with ⟨hwatched, hstatus⟩
    -- One session that was accepted at once is enough.
    let d : Dispatcher π := ⟨.empty, ⟨(∅ : Table Int Entry).insert rover ⟨m.id, 0⟩,
      (∅ : Table Nat (Desk π)).insert 0 ⟨.start 0, [], true⟩, 1⟩⟩
    have hmem : (rover, m.id, .start 0) ∈ d.registry.sessions :=
      Registry.mem_sessions_of_reserve
        (show Registry.empty.reserve rover m.id 0 = some (0, d.registry) from rfl)
    -- The status has been silent for just too long, and the wait is not over.
    have hstale : Dispatcher.finding limits 120001 (.start 0) = .removeStale := rfl
    refine ⟨0, acceptance rover m.id, d, _, 120001, ?_, hwatched, ?_, ?_, ?_⟩
    · rw [hstatus]
      exact hmem
    · rw [show ({} : CoordinatorSettings).timing = settings.timing from rfl, htimeout,
        if_pos (by omega), later, maxTime]
      omega
    · exact (Dispatcher.mem_roversWith_iff hmem .removeStale).2 hstale
    · refine eq_false_of_ne_true (fun hheld => ?_)
      have hkeep := (Dispatcher.holds_sweep_iff hmem).1 hheld
      rw [hstale] at hkeep
      cases hkeep

/-- A session that waits for a report as long as it may is spared, one
    millisecond before it gives up. -/
theorem watched_spared_fifteen :
    let settings : CoordinatorSettings := {}
    let m : Mission := Draft.mission ⟨.zero, .zero, .zero, .zero, "scan", 60, 15, none, 1⟩ 1 0
    ∃ s, Supervisor.prepare settings.timing 7 m = .ok s ∧
      let p := (start s 0).run (acceptance 7 1)
      let d : Dispatcher Message :=
        ⟨.empty, ⟨.ofList [(7, ⟨1, 0⟩)], .ofList [(0, ⟨p.status, [], true⟩)], 1⟩⟩
      p.supervisor.phase = .watching 120000 ∧
        7 ∉ (d.sweep ⟨settings.inactivity, settings.cooldown⟩ 119999).1.stale := by
  intro settings m
  have hrun : ∃ s, Supervisor.prepare settings.timing 7 m = .ok s ∧
      let p := (start s 0).run (acceptance 7 1)
      let d : Dispatcher Message :=
        ⟨.empty, ⟨.ofList [(7, ⟨1, 0⟩)], .ofList [(0, ⟨p.status, [], true⟩)], 1⟩⟩
      (7, 1, p.status) ∈ d.registry.sessions ∧ p.supervisor.phase = .watching 120000 :=
    Supervisor.exists_prepare_of_check (by decide +kernel)
  rcases hrun with ⟨s, hs, hmem, hwatched⟩
  exact ⟨s, hs, hwatched,
    ((watched_spared hs).1 (by decide) 0 _ _ 120000 119999 hmem hwatched (by decide)).1⟩

/-- A session that waits eight seconds longer than the sweep allows is removed
    before it gives up. -/
theorem watched_removed_sixteen :
    let settings : CoordinatorSettings := {}
    let draft : Draft := ⟨.zero, .zero, .zero, .zero, "scan", 60, 16, none, 1⟩
    let m := draft.mission 1 0
    draft.toMission 1 0 = .ok m ∧ ∃ s, Supervisor.prepare settings.timing 7 m = .ok s ∧
      let p := (start s 0).run (acceptance 7 1)
      let d : Dispatcher Message :=
        ⟨.empty, ⟨.ofList [(7, ⟨1, 0⟩)], .ofList [(0, ⟨p.status, [], true⟩)], 1⟩⟩
      (7, 1, p.status) ∈ d.registry.sessions ∧ p.supervisor.phase = .watching 128000 ∧
        120001 < 128000 ∧
        7 ∈ (d.sweep ⟨settings.inactivity, settings.cooldown⟩ 120001).1.stale := by
  intro settings draft m
  have hdefect : draft.defect? = none := by decide +kernel
  refine ⟨?_, Supervisor.exists_prepare_of_check (by decide +kernel)⟩
  rw [Draft.toMission, hdefect]

end PublicSession

end RoverDispatch
