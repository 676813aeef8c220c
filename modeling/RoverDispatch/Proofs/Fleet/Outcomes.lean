import RoverDispatch.Node.Coordinator
import RoverDispatch.Proofs.Fleet.Assignments
import RoverDispatch.Proofs.Session.EventStreams

/-!
# Outcomes

What a session tells is what the fleet has on record.

Every event of a session is one of the updates of its mission, so while the
assignment stands, an event replaces the records of the rover and the mission
and leaves all others alone. `Recorded` says how the two records look in each
chapter of a session. What can be told next leads from the records of one
chapter to those of the next, and by induction along the stream the records
are always those of the chapter that the session is in. In particular progress
has been counted exactly when the session has seen it, which is what others
decide by when they withdraw a mission.

An event only names its mission. When the assignment of a session has been
taken back, its events do nothing as long as nobody holds the mission. But
once another rover holds it, they are taken for news of that rover:
`Fleet.Consistent.applyAll_eq_self_iff` says exactly which events leave the
other assignment as it is, and these are only repeated acceptances.

## Main definitions

* `SessionEvent.update`: What an event reports on the mission.
* `Fleet.SameBut`: Two fleets that differ in one rover and one mission at most.
* `Recorded`: The records of a rover and its mission in a chapter.
* `Fleet.Shows`: A fleet has the records of a chapter.
* `Narration.pending`: The events that wait to be collected.
* `Deployment`: A session and the fleet that its events go into.
* `Deployment.Reaches`: What becomes of them.
* `MissionRecord.heard`, `MissionRecord.MovedOn`: How far a mission has come.

## Theorems

* `Fleet.Held.apply`: What an event does to a mission that is held.
* `Recorded.next`: It leads from the records of a chapter to those of the next.
* `Fleet.Shows.applyAll`: A stream leads from chapter to chapter.
* `Deployment.exists_step_conclude`: Coordinators take such steps.
* `Deployment.Reaches.settled`: The records are those of the session's chapter.
* `Deployment.outcome_recorded`: What a session has told is on record.
* `Fleet.Consistent.applyAll_idle`: Nothing happens to a mission nobody holds.
* `Fleet.Consistent.applyAll_eq_self_iff`: What leaves a held mission as it is.
* `Fleet.Consistent.sameBut_applyAll`: What is left alone in any case.
* `Narration.superseded_events`: What a session does once its assignment has
  been taken back.
-/

namespace RoverDispatch

/-- What an event of a session reports on its mission. -/
def SessionEvent.update (now : Nat) : SessionEvent → Fleet.Update
  | accepted => .confirm
  | progress p => .recordProgress p
  | completed => .complete
  | failed (.missionError e) _ => .fail e now
  | failed reason afterProgress => Fleet.withdrawal afterProgress reason.message

/-- Only acceptance confirms a mission. -/
theorem SessionEvent.eq_accepted_of_update {e : SessionEvent} {now : Nat}
    (h : e.update now = .confirm) : e = .accepted := by
  cases e with
  | accepted => rfl
  | failed reason afterProgress => cases reason <;> cases afterProgress <;> cases h
  | _ => cases h

namespace Fleet

variable {f f' f'' : Fleet} {rover mission : Int} {r : RoverRecord} {m : MissionRecord}
  {e : SessionEvent} {now : Nat}

/-! ### Events as updates -/

theorem outcome_eq_update (f : Fleet) (mission : Int) (now : Nat) (e : SessionEvent) :
    f.outcome mission now e = f.update mission (e.update now) := by
  cases e with
  | failed reason afterProgress =>
      cases reason with
      | missionError e => rfl
      | _ => exact f.withdraw_eq_update mission afterProgress _
  | _ => rfl

theorem apply_of_update (h : f.update mission (e.update now) = .ok f') :
    f.apply mission now e = f' := by
  rw [apply, outcome_eq_update, h]

/-- An event about a mission that is held replaces its record and that of the
    rover. -/
theorem Held.apply (h : f.Held rover r mission m) (now : Nat) (e : SessionEvent) :
    f.apply mission now e = f.put rover ((e.update now).rover mission r) mission
      ((e.update now).mission rover m) :=
  apply_of_update (h.update (e.update now))

/-- An event about a mission that nobody holds changes nothing. -/
theorem Consistent.apply_idle (h : f.Consistent)
    (hidle : ∀ m, f.missions.find? mission = some m → m.state.holder? = none) (now : Nat)
    (e : SessionEvent) : f.apply mission now e = f := by
  cases hm : f.missions.find? mission with
  | none => rw [Fleet.apply, outcome_eq_update, update_unknown hm]
  | some m => exact apply_of_update (h.update_idle hm (h.isIdle hm (hidle m hm)) _)

theorem applyAll_cons (f : Fleet) (mission : Int) (now : Nat) (e : SessionEvent)
    (events : List SessionEvent) : f.applyAll mission now (e :: events) =
      (f.apply mission now e).applyAll mission now events :=
  rfl

theorem Consistent.apply (h : f.Consistent) (mission : Int) (now : Nat) (e : SessionEvent) :
    (f.apply mission now e).Consistent := by
  rw [Fleet.apply, outcome_eq_update]
  cases hu : f.update mission (e.update now) with
  | error _ => exact h
  | ok f' => exact h.update hu

/-! ### Everything else -/

/-- Two fleets that differ in the records of one rover and one mission at
    most. -/
structure SameBut (rover mission : Int) (f f' : Fleet) : Prop where
  rovers : ∀ rover', rover' ≠ rover → f'.rovers.find? rover' = f.rovers.find? rover'
  missions : ∀ mission', mission' ≠ mission →
    f'.missions.find? mission' = f.missions.find? mission'
  nextMission : f'.nextMission = f.nextMission

theorem SameBut.refl (rover mission : Int) (f : Fleet) : SameBut rover mission f f :=
  ⟨fun _ _ => rfl, fun _ _ => rfl, rfl⟩

theorem SameBut.trans (h : SameBut rover mission f f') (h' : SameBut rover mission f' f'') :
    SameBut rover mission f f'' where
  rovers := fun rover' hne => (h'.rovers rover' hne).trans (h.rovers rover' hne)
  missions := fun mission' hne => (h'.missions mission' hne).trans (h.missions mission' hne)
  nextMission := h'.nextMission.trans h.nextMission

theorem sameBut_put (f : Fleet) (rover : Int) (r : RoverRecord) (mission : Int)
    (m : MissionRecord) : SameBut rover mission f (f.put rover r mission m) :=
  ⟨fun _ hne => find?_put_rover_of_ne hne, fun _ hne => find?_put_mission_of_ne hne, rfl⟩

end Fleet

/-! ### The records of a chapter -/

/-- How the records of a rover and its mission look in a chapter of the session
    for them. -/
inductive Recorded (rover mission : Int) : Chapter → RoverRecord → MissionRecord → Prop where
  | assigned {r : RoverRecord} {m : MissionRecord} (roverState : r.state = .receiving mission)
      (missionState : m.state = .assigned rover) (reports : m.reports = 0) :
      Recorded rover mission .opening r m
  | underway {seen : Bool} {r : RoverRecord} {m : MissionRecord}
      (roverState : r.state = .onMission mission) (missionState : m.state = .inProgress rover)
      (reports : seen = true ↔ 0 < m.reports) :
      Recorded rover mission (.underway seen) r m
  | completed {seen : Bool} {r : RoverRecord} {m : MissionRecord}
      (roverState : r.state = .available) (missionState : m.state = .completed rover) :
      Recorded rover mission (.closed .completed seen) r m
  /-- The rover is out of order. -/
  | faulty {e : ErrorReport} {seen : Bool} {r : RoverRecord} {m : MissionRecord} {since : Nat}
      (roverState : r.state = .fault since)
      (reported : r.battery = e.battery ∧ r.x = e.x ∧ r.y = e.y)
      (missionState : m.state = .failed rover ⟨some e.fault.code, e.description⟩) :
      Recorded rover mission (.closed (.failed (.missionError e)) seen) r m
  /-- The mission has not been begun and waits again. -/
  | reverted {reason : FailureReason} {r : RoverRecord} {m : MissionRecord}
      (unreported : reason.report? = none) (roverState : r.state = .available)
      (missionState : m.state = .pending) :
      Recorded rover mission (.closed (.failed reason) false) r m
  | abandoned {reason : FailureReason} {r : RoverRecord} {m : MissionRecord}
      (unreported : reason.report? = none) (roverState : r.state = .available)
      (missionState : m.state = .failed rover ⟨none, reason.message⟩) :
      Recorded rover mission (.closed (.failed reason) true) r m

namespace Recorded

variable {rover mission : Int} {c c' : Chapter} {r : RoverRecord} {m : MissionRecord}
  {e : SessionEvent} {seen : Bool}

/-- As long as the session has not ended, the mission holds the rover. -/
theorem engagement (h : Recorded rover mission c r m) (hopen : c.outcome? = none) :
    Engagement rover mission r.state m.state := by
  cases h with
  | assigned roverState missionState =>
      rw [roverState, missionState]
      exact .receiving
  | underway roverState missionState =>
      rw [roverState, missionState]
      exact .working
  | _ => cases hopen

/-- Progress has been counted exactly when the session has seen it. -/
theorem progressSeen_iff (h : Recorded rover mission c r m) (hopen : c.outcome? = none) :
    c.progressSeen = true ↔ 0 < m.reports := by
  cases h with
  | assigned roverState missionState reports =>
      simp only [Chapter.progressSeen, reports, Bool.false_eq_true, Nat.lt_irrefl]
  | underway roverState missionState reports => exact reports
  | _ => cases hopen

/-- The records after the mission was completed. -/
theorem of_completed (h : Recorded rover mission (.closed .completed seen) r m) :
    m.state = .completed rover ∧ r.state = .available := by
  cases h with
  | completed roverState missionState => exact ⟨missionState, roverState⟩

/-- The records after an error of the rover. -/
theorem of_missionError {e : ErrorReport}
    (h : Recorded rover mission (.closed (.failed (.missionError e)) seen) r m) :
    m.state = .failed rover ⟨some e.fault.code, e.description⟩ ∧
      (∃ since, r.state = .fault since) ∧ r.battery = e.battery ∧ r.x = e.x ∧ r.y = e.y := by
  cases h with
  | faulty roverState reported missionState => exact ⟨missionState, ⟨_, roverState⟩, reported⟩
  | reverted unreported => cases unreported
  | abandoned unreported => cases unreported

/-- The records after any other failure. -/
theorem of_unreported {reason : FailureReason} (unreported : reason.report? = none)
    (h : Recorded rover mission (.closed (.failed reason) seen) r m) :
    r.state = .available ∧
      (seen = true → m.state = .failed rover ⟨none, reason.message⟩) ∧
      (seen = false → m.state = .pending) := by
  cases h with
  | faulty => cases unreported
  | reverted _ roverState missionState => exact ⟨roverState, nofun, fun _ => missionState⟩
  | abandoned _ roverState missionState => exact ⟨roverState, fun _ => missionState, nofun⟩

/-- A session that fails without a report of the rover is withdrawn. -/
theorem withdrawn {reason : FailureReason} (unreported : reason.report? = none) (seen : Bool)
    (now : Nat) : Recorded rover mission (.closed (.failed reason) seen)
      (((SessionEvent.failed reason seen).update now).rover mission r)
      (((SessionEvent.failed reason seen).update now).mission rover m) := by
  have hupdate : (SessionEvent.failed reason seen).update now =
      Fleet.withdrawal seen reason.message := by
    cases reason with
    | missionError e => cases unreported
    | _ => rfl
  rw [hupdate]
  cases seen with
  | false => exact .reverted unreported rfl rfl
  | true => exact .abandoned unreported rfl rfl

/-- What can be told next leads from the records of a chapter to those of the
    next. -/
theorem next (h : Recorded rover mission c r m) (next : Chapter.Next c e c') (now : Nat) :
    Recorded rover mission c' ((e.update now).rover mission r)
      ((e.update now).mission rover m) := by
  cases next with
  | @early reason early =>
      refine withdrawn ?_ false now
      -- A session that ends before it was accepted ends without a report of the rover.
      cases reason with
      | missionError e => cases early
      | _ => rfl
  | accepted =>
      cases h with
      | assigned roverState missionState reports =>
          refine .underway rfl rfl ?_
          -- Acceptance is not progress, so none has been counted yet.
          rw [show (SessionEvent.accepted.update now).mission rover m =
            { m with state := .inProgress rover } from rfl, reports]
          exact ⟨nofun, nofun⟩
  | progress seen p => exact .underway rfl rfl ⟨fun _ => Nat.succ_pos _, fun _ => rfl⟩
  | completed seen => exact .completed rfl rfl
  | @failed _ reason late =>
      -- An error that was reported breaks the rover; any other reason sets it free.
      cases reason with
      | missionError e => exact .faulty rfl ⟨rfl, rfl, rfl⟩ rfl
      | _ => exact withdrawn rfl _ now

end Recorded

namespace Fleet

variable {f f' : Fleet} {rover mission : Int} {c c' : Chapter} {e : SessionEvent}
  {events : List SessionEvent}

/-- A fleet has the records of a chapter. -/
def Shows (f : Fleet) (rover mission : Int) (c : Chapter) : Prop :=
  ∃ r m, f.rovers.find? rover = some r ∧ f.missions.find? mission = some m ∧
    Recorded rover mission c r m

/-- The records are what matters. -/
theorem Shows.congr (h : f.Shows rover mission c)
    (hrover : f'.rovers.find? rover = f.rovers.find? rover)
    (hmission : f'.missions.find? mission = f.missions.find? mission) :
    f'.Shows rover mission c := by
  rcases h with ⟨r, m, hr, hm, hrecorded⟩
  exact ⟨r, m, hrover.trans hr, hmission.trans hm, hrecorded⟩

/-- An event leads from the records of a chapter to those of the next and
    leaves all others alone. -/
theorem Shows.apply (h : f.Shows rover mission c) (next : Chapter.Next c e c') (now : Nat) :
    (f.apply mission now e).Shows rover mission c' ∧
      SameBut rover mission f (f.apply mission now e) := by
  rcases h with ⟨r, m, hr, hm, hrecorded⟩
  have hheld : f.Held rover r mission m :=
    ⟨hr, hm, hrecorded.engagement next.outcome?_eq_none⟩
  rw [hheld.apply]
  exact ⟨⟨_, _, find?_put_rover, find?_put_mission, hrecorded.next next now⟩, sameBut_put ..⟩

/-- A stream leads from chapter to chapter. -/
theorem Shows.applyAll (h : f.Shows rover mission c) (leads : Chapter.Leads c events c')
    (now : Nat) : (f.applyAll mission now events).Shows rover mission c' ∧
      SameBut rover mission f (f.applyAll mission now events) := by
  induction leads generalizing f with
  | refl c => exact ⟨h, .refl _ _ _⟩
  | cons next leads ih =>
      rcases h.apply next now with ⟨hshows, hsame⟩
      rcases ih hshows with ⟨hlater, hrest⟩
      exact ⟨hlater, hsame.trans hrest⟩

/-- A rover and a mission that have just been tied have the records to begin
    with. -/
theorem Consistent.shows_of_assign {payload : Mission} (h : f.Consistent)
    (hassign : f.assign rover mission = (.ok payload, f')) :
    payload.id = mission ∧ f'.Shows rover mission .opening := by
  have hassigns := f.assigns rover mission
  rw [hassign] at hassigns
  cases hassigns with
  | tied roverRecord available missionRecord pending =>
      exact ⟨(h.numbered missionRecord).1, _, _, find?_put_rover, find?_put_mission,
        .assigned (h.reserved_eq roverRecord available mission) rfl rfl⟩

end Fleet

/-! ### Sessions and the fleet -/

namespace Narration

/-- The events that wait to be collected. -/
def pending (n : Narration) : List SessionEvent := n.waiting.map Notice.event

/-- A session makes something of some inputs, one after the other. -/
def inputs (n : Narration) (is : List Supervisor.Input) : Narration := n.run (is.map .input)

theorem pending_input (n : Narration) (i : Supervisor.Input) :
    (n.input i).pending = n.pending ++ (n.supervisor.react i).events := by
  rw [pending, input, List.map_append, map_event_noticesOf, pending]

variable {n : Narration}

/-- A session stays about its mission. -/
theorem mission_run (n : Narration) (turns : List Turn) :
    (n.run turns).supervisor.mission = n.supervisor.mission := by
  induction turns generalizing n with
  | nil => rfl
  | cons next turns ih =>
      cases next with
      | input i => exact (ih (n.input i)).trans (n.supervisor.speaks i).mission
      | collect => exact ih n.collect

/-- The events that wait lead to the chapter of the session. -/
theorem Faithful.leads_inputs {c : Chapter} (h : n.Faithful)
    (hpending : Chapter.Leads c n.pending n.supervisor.chapter) (is : List Supervisor.Input) :
    Chapter.Leads c (n.inputs is).pending (n.inputs is).supervisor.chapter := by
  induction is generalizing n with
  | nil => exact hpending
  | cons i is ih =>
      have hnext : Chapter.Leads c (n.input i).pending (n.input i).supervisor.chapter := by
        rw [pending_input]
        exact hpending.append (Supervisor.narrates h.unseen i).leads
      exact ih (h.input i) hnext

end Narration

/-- What becomes of the fleet and the session when a coordinator concludes a
    reaction. -/
theorem Coordinator.conclude_eq (c : Coordinator) (desk : Nat) (task : SessionTask)
    (r : SupervisorReaction) (now : Nat) :
    let s := if r.messages = [] then r.state else r.state.transmitted now
    let c' := (c.conclude desk task r now).1
    c'.fleet = c.fleet.applyAll s.mission.id now r.events ∧
      c'.tasks.find? desk = if s.isFinished then none else some { task with supervisor := s } := by
  simp only [conclude]
  generalize (if r.messages = [] then r.state else r.state.transmitted now) = s
  by_cases hfinished : s.isFinished = true
  · simp only [if_pos hfinished]
    exact ⟨rfl, by rw [Table.find?_erase, if_pos rfl]⟩
  · simp only [if_neg hfinished]
    exact ⟨rfl, Table.find?_insert_self _ _ _⟩

/-- A session and the fleet that its events go into. -/
structure Deployment where
  narration : Narration
  fleet : Fleet
  deriving DecidableEq

namespace Deployment

/-- The session makes something of some inputs, and then the events that wait
    are collected and go into the fleet. -/
def step (d : Deployment) (is : List Supervisor.Input) (now : Nat) : Deployment :=
  let n := d.narration.inputs is
  { narration := n.collect, fleet := d.fleet.applyAll n.supervisor.mission.id now n.pending }

/-- What a coordinator makes of an input of a session is such a step: of the
    input alone, or also of the news that its messages have been sent. -/
theorem exists_step_conclude (c : Coordinator) (desk : Nat) (task : SessionTask)
    (i : Supervisor.Input) (now : Nat) {n : Narration} (hn : n.supervisor = task.supervisor)
    (hwaiting : n.waiting = []) :
    ∃ is, let d := (mk n c.fleet).step is now
      let c' := (c.conclude desk task (task.supervisor.react i) now).1
      c'.fleet = d.fleet ∧ c'.tasks.find? desk =
        if d.narration.supervisor.isFinished then none
        else some { task with supervisor := d.narration.supervisor } := by
  rcases n with ⟨supervisor, collected, waiting⟩
  cases hn
  cases hwaiting
  rcases c.conclude_eq desk task (task.supervisor.react i) now with ⟨hfleet, htask⟩
  have hpending : (Narration.input ⟨task.supervisor, collected, []⟩ i).pending =
      (task.supervisor.react i).events := Narration.pending_input _ i
  by_cases hmessages : (task.supervisor.react i).messages = []
  · rw [if_pos hmessages] at hfleet htask
    refine ⟨[i], hfleet.trans ?_, htask⟩
    rw [← hpending]
    rfl
  · rw [if_neg hmessages] at hfleet htask
    refine ⟨[i, .sent now], hfleet.trans ?_, htask⟩
    -- That the messages have been sent is told nobody.
    have hsent := Narration.pending_input
      (Narration.input ⟨task.supervisor, collected, []⟩ i) (.sent now)
    rw [hpending, show (Supervisor.react _ (.sent now)).events = [] from rfl,
      List.append_nil] at hsent
    rw [← hsent]
    rfl

/-- What becomes of a session and of the fleet while others leave its rover and
    its mission alone. -/
inductive Reaches (rover mission : Int) (d₀ : Deployment) : Deployment → Prop where
  | start : Reaches rover mission d₀ d₀
  | step {d : Deployment} (reaches : Reaches rover mission d₀ d) (is : List Supervisor.Input)
      (now : Nat) : Reaches rover mission d₀ (d.step is now)
  /-- Others change the fleet. -/
  | other {d : Deployment} (reaches : Reaches rover mission d₀ d) (fleet : Fleet)
      (roverRecord : fleet.rovers.find? rover = d.fleet.rovers.find? rover)
      (missionRecord : fleet.missions.find? mission = d.fleet.missions.find? mission) :
      Reaches rover mission d₀ { d with fleet }

/-- Everything that a session has told is on record. -/
structure Settled (rover : Int) (payload : Mission) (d : Deployment) : Prop where
  faithful : d.narration.Faithful
  collected : d.narration.waiting = []
  mission : d.narration.supervisor.mission = payload
  shows : d.fleet.Shows rover payload.id d.narration.supervisor.chapter

variable {rover : Int} {payload : Mission} {d d₀ : Deployment}

/-- What a step does to the fleet. -/
theorem Settled.apply (h : d.Settled rover payload) (is : List Supervisor.Input) (now : Nat) :
    (d.step is now).fleet.Shows rover payload.id (d.narration.inputs is).supervisor.chapter ∧
      Fleet.SameBut rover payload.id d.fleet (d.step is now).fleet := by
  have hpending : Chapter.Leads d.narration.supervisor.chapter d.narration.pending
      d.narration.supervisor.chapter := by
    rw [Narration.pending, h.collected]
    exact .refl _
  have hid : (d.narration.inputs is).supervisor.mission.id = payload.id := by
    rw [Narration.inputs, Narration.mission_run, h.mission]
  simp only [step, hid]
  exact h.shows.applyAll (h.faithful.leads_inputs hpending is) now

theorem Settled.step (h : d.Settled rover payload) (is : List Supervisor.Input) (now : Nat) :
    (d.step is now).Settled rover payload where
  faithful := (h.faithful.run _).collect
  collected := rfl
  mission := (Narration.mission_run _ _).trans h.mission
  shows := (h.apply is now).1

theorem Reaches.settled (h : Reaches rover payload.id d₀ d) (h₀ : d₀.Settled rover payload) :
    d.Settled rover payload := by
  induction h with
  | start => exact h₀
  | step reaches is now ih => exact ih.step is now
  | other reaches fleet roverRecord missionRecord ih =>
      exact ⟨ih.faithful, ih.collected, ih.mission, ih.shows.congr roverRecord missionRecord⟩

theorem settled_start {timing : Timing} {mission : Int} {f f' : Fleet} {s : Supervisor}
    (hf : f.Consistent) (hassign : f.assign rover mission = (.ok payload, f'))
    (hs : Supervisor.prepare timing rover payload = .ok s) :
    payload.id = mission ∧ Settled rover payload ⟨.start s, f'⟩ := by
  rcases hf.shows_of_assign hassign with ⟨rfl, hshows⟩
  have hfaithful := Narration.Faithful.start hs
  rcases Supervisor.of_prepare hs with ⟨transfer, -, rfl⟩
  exact ⟨rfl, hfaithful, rfl, rfl, hshows⟩

/-- As long as the session has not ended, rover and mission hold each other,
    and whoever withdraws the mission decides as the session would. -/
theorem Settled.of_open (h : d.Settled rover payload)
    (hopen : d.narration.supervisor.outcome? = none) :
    ∃ r m, d.fleet.Held rover r payload.id m ∧
      (.accepted ∉ d.narration.events ∧ m.state = .assigned rover ∧
          r.state = .receiving payload.id ∨
        .accepted ∈ d.narration.events ∧ m.state = .inProgress rover ∧
          r.state = .onMission payload.id) ∧
      (d.narration.supervisor.log.progressSeen = true ↔ 0 < m.reports) := by
  -- Only two chapters have no outcome, and they differ in whether acceptance was told.
  rw [← Supervisor.outcome?_chapter] at hopen
  rcases h.shows with ⟨r, m, hr, hm, hrecorded⟩
  refine ⟨r, m, ⟨hr, hm, hrecorded.engagement hopen⟩, ?_, ?_⟩
  · rcases h.faithful.leads.accepted_of_outcome? hopen with ⟨hchapter, hunsaid⟩ |
      ⟨seen, hchapter, hsaid⟩
    · rw [hchapter] at hrecorded
      cases hrecorded with
      | assigned roverState missionState => exact .inl ⟨hunsaid, missionState, roverState⟩
    · rw [hchapter] at hrecorded
      cases hrecorded with
      | underway roverState missionState => exact .inr ⟨hsaid, missionState, roverState⟩
  · -- Progress has been counted exactly if the session knows of some.
    rw [← h.faithful.unseen.progressSeen_chapter]
    exact hrecorded.progressSeen_iff hopen

/-- Take a mission that has just been tied to a rover, its session, and any run
    of it in which its events go into the fleet after each step and nobody else
    touches the records of the two. As long as the session has not ended, the
    records follow its acceptance, progress has been counted exactly if the
    session has seen it, and a mission withdrawn because of the session's status
    or for want of a session ends up the same. Once it has ended, the records
    are those of its outcome. No step changes any other record. -/
theorem outcome_recorded (ops : List Fleet.Operation) {timing : Timing} {mission : Int}
    {f : Fleet} {s : Supervisor}
    (hassign : (Fleet.empty.performAll ops).assign rover mission = (.ok payload, f))
    (hs : Supervisor.prepare timing rover payload = .ok s)
    (hd : Reaches rover mission ⟨.start s, f⟩ d) :
    let n := d.narration
    ∃ r m, d.fleet.rovers.find? rover = some r ∧ d.fleet.missions.find? mission = some m ∧
      (n.supervisor.isTerminal = false →
        (.accepted ∉ n.events → m.state = .assigned rover ∧ r.state = .receiving mission) ∧
        (.accepted ∈ n.events → m.state = .inProgress rover ∧ r.state = .onMission mission) ∧
        (n.supervisor.log.progressSeen = true ↔ 0 < m.reports) ∧
        ∀ status : SessionStatus, ∃ f',
          d.fleet.withdraw mission (status.publish n.supervisor).progressSeen
            "session lost after progress" = .ok f' ∧
          d.fleet.releaseOrphan rover =
            some (⟨rover, some mission, !(status.publish n.supervisor).progressSeen⟩, f')) ∧
      (n.supervisor.outcome? = some .completed →
        m.state = .completed rover ∧ r.state = .available) ∧
      (∀ e, n.supervisor.outcome? = some (.failed (.missionError e)) →
        m.state = .failed rover ⟨some e.fault.code, e.description⟩ ∧
          (∃ since, r.state = .fault since) ∧ r.battery = e.battery ∧ r.x = e.x ∧ r.y = e.y) ∧
      (∀ reason, n.supervisor.outcome? = some (.failed reason) → reason.report? = none →
        r.state = .available ∧
        ((∃ p, .progress p ∈ n.events) → m.state = .failed rover ⟨none, reason.message⟩) ∧
        ((∀ p, .progress p ∉ n.events) → m.state = .pending ∧ m.state.rover? = none)) ∧
      ∀ is now, Fleet.SameBut rover mission d.fleet (d.step is now).fleet := by
  intro n
  rcases settled_start (Fleet.consistent_empty.performAll ops) hassign hs with ⟨rfl, hstart⟩
  have h : d.Settled rover payload := hd.settled hstart
  have hprogress : n.supervisor.log.progressSeen = true ↔ ∃ p, .progress p ∈ n.events :=
    h.faithful.progressSeen_iff
  rcases h.shows with ⟨r, m, hr, hm, hrecorded⟩
  refine ⟨r, m, hr, hm, ?_, ?_, ?_, ?_, fun is now => (h.apply is now).2⟩
  · -- While the session goes on, the two hold each other.
    intro hterminal
    rcases h.of_open (Option.not_isSome_iff_eq_none.1 (ne_true_of_eq_false hterminal)) with
      ⟨r', m', hheld, hstates, hreports⟩
    cases hr.symm.trans hheld.roverRecord
    cases hm.symm.trans hheld.missionRecord
    refine ⟨fun hunsaid => ?_, fun hsaid => ?_, hreports, fun status => ?_⟩
    · exact (hstates.resolve_right (fun hright => hunsaid hright.1)).2
    · exact (hstates.resolve_left (fun hleft => hleft.1 hsaid)).2
    · -- Status and record agree on progress, so both ways to withdraw do the same.
      have hseen : (status.publish n.supervisor).progressSeen = decide (0 < m.reports) :=
        Bool.eq_iff_iff.2 (hreports.trans decide_eq_true_iff.symm)
      rw [hseen]
      exact ⟨_, hheld.withdraw _ _, hheld.releaseOrphan⟩
  · -- Once it has ended, the outcome is the chapter, and the records are those of the chapter.
    intro hcompleted
    rw [Supervisor.chapter_of_outcome? hcompleted] at hrecorded
    exact hrecorded.of_completed
  · intro e hfailed
    rw [Supervisor.chapter_of_outcome? hfailed] at hrecorded
    exact hrecorded.of_missionError
  · intro reason hfailed hunreported
    rw [Supervisor.chapter_of_outcome? hfailed] at hrecorded
    rcases hrecorded.of_unreported hunreported with ⟨havailable, hfailed, hpending⟩
    refine ⟨havailable, fun htold => hfailed (hprogress.2 htold), fun huntold => ?_⟩
    have hunseen : n.supervisor.log.progressSeen = false := by
      refine eq_false_of_ne_true (fun hseen => ?_)
      rcases hprogress.1 hseen with ⟨p, hp⟩
      exact huntold p hp
    rw [hpending hunseen]
    exact ⟨rfl, rfl⟩

/-- The rover reports progress, which also tells that it has the mission, and
    then an error. -/
theorem outcome_recorded_error :
    let draft : Draft := ⟨.zero, .zero, .zero, .zero, "scan", 60, 30, none, 1⟩
    let payload := draft.mission 1 0
    let ops : List Fleet.Operation := [.register 1 none, .register 2 none, .submit draft 0]
    let f := ((Fleet.empty.performAll ops).assign 1 1).2
    let e : ErrorReport := ⟨1, .batteryLow, "low", .zero, .two, .zero, .hundred, 3⟩
    let news (kind : Kind) (seq : Int) (payload : Payload) : Message :=
      { kind, sender := 1, receiver := coordinatorId, mission := 1, seq, success := true, payload }
    ∃ s, Supervisor.prepare {} 1 payload = .ok s ∧
      let d₁ := ((Deployment.mk (.start s) f).step [.greet 0] 0).step
        [.hear (news .response 1 .empty) 1, .sent 1] 1
      let d₂ := d₁.step [.hear (news .progress 1 (.progress ⟨1, 4, .zero⟩)) 2] 2
      let d₃ := d₂.step [.hear (news .error 2 (.error e)) 3] 3
      d₃.narration.supervisor.outcome? = some (.failed (.missionError e)) ∧
        ∃ r m, d₃.fleet.rovers.find? 1 = some r ∧ d₃.fleet.missions.find? 1 = some m ∧
          m.state = .failed 1 ⟨some e.fault.code, "low"⟩ ∧ (∃ since, r.state = .fault since) ∧
          r.battery = .two ∧ r.x = .zero ∧ r.y = .hundred := by
  intro draft payload ops f e news
  have hassign : (Fleet.empty.performAll ops).assign 1 1 = (.ok payload, f) := by decide +kernel
  have hrun : ∃ s, Supervisor.prepare {} 1 payload = .ok s ∧
      ((((Deployment.mk (.start s) f).step [.greet 0] 0).step
        [.hear (news .response 1 .empty) 1, .sent 1] 1).step
        [.hear (news .progress 1 (.progress ⟨1, 4, .zero⟩)) 2] 2 |>.step
        [.hear (news .error 2 (.error e)) 3] 3).narration.supervisor.outcome? =
          some (.failed (.missionError e)) :=
    Supervisor.exists_prepare_of_check (by decide +kernel)
  rcases hrun with ⟨s, hs, houtcome⟩
  rcases outcome_recorded ops hassign hs
      (.step (.step (.step (.step .start [.greet 0] 0) _ 1) _ 2) _ 3) with
    ⟨r, m, hr, hm, -, -, herror, -⟩
  exact ⟨s, hs, houtcome, r, m, hr, hm, herror e houtcome⟩

end Deployment

/-! ### Assignments that have been taken back -/

namespace MissionRecord

/-- How much has been heard of a mission from the rover that holds it. -/
def heard (m : MissionRecord) : Nat :=
  match m.state.status with
  | .inProgress => m.reports + 1
  | _ => m.reports

theorem heard_of_assigned {m : MissionRecord} {rover : Int} (h : m.state = .assigned rover) :
    m.heard = m.reports := by
  rw [heard, h]
  rfl

theorem heard_of_inProgress {m : MissionRecord} {rover : Int} (h : m.state = .inProgress rover) :
    m.heard = m.reports + 1 := by
  rw [heard, h]
  rfl

/-- A mission is not held any more, or more has been heard of it. -/
def MovedOn (m m' : MissionRecord) : Prop := m'.state.holder? = none ∨ m.heard < m'.heard

/-- A mission that has moved on moves further on as long as it is held. -/
theorem MovedOn.trans {m m' m'' : MissionRecord} {rover : Int} (h : m.MovedOn m')
    (hheld : m'.state.holder? = some rover) (h' : m'.MovedOn m'') : m.MovedOn m'' := by
  rcases h with hnone | hlt
  · rw [hheld] at hnone
    cases hnone
  · exact h'.imp_right (fun hlt' => Nat.lt_trans hlt hlt')

/-- A mission that is held has not moved on from where it is. -/
theorem not_movedOn_self {m : MissionRecord} {rover : Int} (h : m.state.holder? = some rover) :
    ¬ m.MovedOn m := by
  rintro (hnone | hlt)
  · rw [h] at hnone
    cases hnone
  · exact Nat.lt_irrefl _ hlt

end MissionRecord

namespace Fleet

variable {f : Fleet} {rover mission : Int} {r : RoverRecord} {m m₀ : MissionRecord}

/-- Once more confirmed, a mission in progress stays as it is. -/
theorem Held.put_confirm (h : f.Held rover r mission m) (hm : m.state = .inProgress rover) :
    f.put rover (Update.confirm.rover mission r) mission (Update.confirm.mission rover m) = f := by
  have hr : r.state = .onMission mission := by
    have hengaged := h.engaged
    rw [hm] at hengaged
    generalize r.state = state at hengaged ⊢
    cases hengaged
    rfl
  have hrover : Update.confirm.rover mission r = r := by rw [Update.rover, ← hr]
  have hmission : Update.confirm.mission rover m = m := by rw [Update.mission, ← hm]
  rw [hrover, hmission, Fleet.put, Table.insert_eq_self h.roverRecord,
    Table.insert_eq_self h.missionRecord]

/-- Every other update moves the mission on. -/
theorem Held.movedOn (h : f.Held rover r mission m) {u : Update}
    (hu : ¬ (u = .confirm ∧ m.state = .inProgress rover)) : m.MovedOn (u.mission rover m) := by
  cases u with
  | confirm =>
      have hstate : m.state = .assigned rover :=
        h.engaged.mission_eq.resolve_right (fun hm => hu ⟨rfl, hm⟩)
      refine .inr ?_
      rw [MissionRecord.heard_of_assigned hstate, MissionRecord.heard_of_inProgress rfl]
      exact Nat.lt_succ_self _
  | recordProgress p =>
      refine .inr ?_
      rw [MissionRecord.heard_of_inProgress (m := Update.mission rover m (.recordProgress p)) rfl]
      -- Even the first report of a mission that was not confirmed counts twice.
      rcases h.engaged.mission_eq with hstate | hstate
      · rw [MissionRecord.heard_of_assigned hstate]
        exact Nat.lt_add_of_pos_right Nat.two_pos
      · rw [MissionRecord.heard_of_inProgress hstate]
        exact Nat.lt_succ_self _
  | _ => exact .inl rfl

/-- An event about a mission that is held either confirms it once more and
    changes nothing, or moves it on. -/
theorem Consistent.apply_held (h : f.Consistent) (hm : f.missions.find? mission = some m)
    (hholder : m.state.holder? = some rover) (now : Nat) (e : SessionEvent) :
    (f.apply mission now e = f ∧ e = .accepted ∧ m.state = .inProgress rover) ∨
      ∃ m', (f.apply mission now e).missions.find? mission = some m' ∧ m.MovedOn m' := by
  rcases h.exists_held hm hholder with ⟨r, hheld⟩
  rw [hheld.apply]
  by_cases hagain : e.update now = .confirm ∧ m.state = .inProgress rover
  · rw [hagain.1, hheld.put_confirm hagain.2]
    exact .inl ⟨rfl, SessionEvent.eq_accepted_of_update hagain.1, hagain.2⟩
  · exact .inr ⟨_, find?_put_mission, hheld.movedOn hagain⟩

/-- Nothing happens to a mission that nobody holds. -/
theorem Consistent.applyAll_idle (h : f.Consistent)
    (hidle : ∀ m, f.missions.find? mission = some m → m.state.holder? = none) (now : Nat)
    (events : List SessionEvent) : f.applyAll mission now events = f := by
  induction events with
  | nil => rfl
  | cons e events ih => rw [applyAll_cons, h.apply_idle hidle, ih]

/-- A mission that has moved on never comes back to where it was. -/
theorem Consistent.applyAll_movedOn (h : f.Consistent) (hm : f.missions.find? mission = some m)
    (hmoved : m₀.MovedOn m) (now : Nat) (events : List SessionEvent) :
    ∃ m', (f.applyAll mission now events).missions.find? mission = some m' ∧ m₀.MovedOn m' := by
  induction events generalizing f m with
  | nil => exact ⟨m, hm, hmoved⟩
  | cons e events ih =>
      rw [applyAll_cons]
      cases hholder : m.state.holder? with
      -- Nobody holds the mission, so the event finds nothing to change.
      | none =>
          have hsame : f.apply mission now e = f := by
            refine h.apply_idle (fun m' hm' => ?_) now e
            cases hm.symm.trans hm'
            exact hholder
          rw [hsame]
          exact ih h hm hmoved
      -- An event that finds the mission held leaves it or takes it further.
      | some rover =>
          rcases h.apply_held hm hholder now e with ⟨hsame, -⟩ | ⟨m', hm', hfurther⟩
          · rw [hsame]
            exact ih h hm hmoved
          · exact ih (h.apply mission now e) hm' (hmoved.trans hholder hfurther)

/-- Events leave a mission that is held as it is exactly if all they do is
    confirm what is confirmed already. -/
theorem Consistent.applyAll_eq_self_iff (h : f.Consistent)
    (hm : f.missions.find? mission = some m) (hholder : m.state.holder? = some rover) (now : Nat)
    (events : List SessionEvent) :
    f.applyAll mission now events = f ↔
      ∀ e ∈ events, e = .accepted ∧ m.state = .inProgress rover := by
  induction events with
  | nil => exact ⟨fun _ _ he => absurd he List.not_mem_nil, fun _ => rfl⟩
  | cons e events ih =>
      rw [applyAll_cons, List.forall_mem_cons]
      rcases h.apply_held hm hholder now e with ⟨hsame, haccepted⟩ | ⟨m', hm', hmoved⟩
      · rw [hsame, ih]
        exact (and_iff_right haccepted).symm
      · constructor
        · intro hself
          rcases (h.apply mission now e).applyAll_movedOn hm' hmoved now events with
            ⟨m'', hm'', hlater⟩
          rw [hself, hm] at hm''
          cases hm''
          exact absurd hlater (MissionRecord.not_movedOn_self hholder)
        · rintro ⟨⟨rfl, hstate⟩, -⟩
          -- What is confirmed once more would not have moved on.
          rcases h.exists_held hm hholder with ⟨r, hheld⟩
          rw [hheld.apply, SessionEvent.update, hheld.put_confirm hstate, hm] at hm'
          cases hm'
          exact absurd hmoved (MissionRecord.not_movedOn_self hholder)

/-- Events about a mission change its record and that of the rover that holds
    it at most. -/
theorem Consistent.sameBut_applyAll (h : f.Consistent)
    (hholder : ∀ m, f.missions.find? mission = some m →
      m.state.holder? = none ∨ m.state.holder? = some rover) (now : Nat)
    (events : List SessionEvent) :
    SameBut rover mission f (f.applyAll mission now events) := by
  induction events generalizing f with
  | nil => exact .refl _ _ _
  | cons e events ih =>
      rw [applyAll_cons]
      by_cases hheld : ∃ r m, f.Held rover r mission m
      · rcases hheld with ⟨r, m, hheld⟩
        have hnext : SameBut rover mission f (f.apply mission now e) := by
          rw [hheld.apply]
          exact sameBut_put ..
        refine hnext.trans (ih (h.apply mission now e) (fun m' hm' => ?_))
        -- The rover still holds the mission, or nobody does.
        rw [hheld.apply, find?_put_mission] at hm'
        cases hm'
        rcases (e.update now).matched rover mission r m with hengaged | ⟨-, hfree⟩
        · exact .inr hengaged.holder?_eq
        · exact .inl hfree.holder?_eq
      · have hidle : ∀ m, f.missions.find? mission = some m → m.state.holder? = none := by
          refine fun m hm => (hholder m hm).resolve_right (fun hrover => ?_)
          rcases h.exists_held hm hrover with ⟨r, hr⟩
          exact hheld ⟨r, m, hr⟩
        rw [h.apply_idle hidle]
        exact ih h hholder

end Fleet

namespace Narration

/-- Take any fleet and any session whose mission is not held by its rover, or
    not any more. If nobody holds the mission, the events that wait do nothing.
    If another rover holds it, they change nothing but the record of the
    mission and that of this other rover, and they leave even these alone
    exactly if all of them are acceptances of a mission that is in progress
    already. -/
theorem superseded_events (ops : List Fleet.Operation) {timing : Timing} {rover : Int}
    {payload : Mission} {s : Supervisor} (hs : Supervisor.prepare timing rover payload = .ok s)
    (turns : List Turn) (now : Nat)
    (hlost : ∀ m, (Fleet.empty.performAll ops).missions.find? payload.id = some m →
      m.state.holder? ≠ some rover) :
    let f := Fleet.empty.performAll ops
    let n := (start s).run turns
    let f' := f.applyAll n.supervisor.mission.id now n.pending
    ((∀ m, f.missions.find? payload.id = some m → m.state.isActive = false) → f' = f) ∧
    ∀ m holder, f.missions.find? payload.id = some m → m.state.holder? = some holder →
      Fleet.SameBut holder payload.id f f' ∧
      f'.rovers.find? rover = f.rovers.find? rover ∧
      (f' = f ↔ ∀ e ∈ n.pending, e = .accepted ∧ m.state = .inProgress holder) := by
  intro f n f'
  have h : f.Consistent := Fleet.consistent_empty.performAll ops
  -- Whatever happens, the session stays about its mission.
  have hmission : n.supervisor.mission.id = payload.id := by
    rcases Supervisor.of_prepare hs with ⟨transfer, -, rfl⟩
    exact congrArg Mission.id (mission_run _ turns)
  have hf' : f' = f.applyAll payload.id now n.pending := by rw [← hmission]
  rw [hf']
  refine ⟨fun hidle => ?_, fun m holder hm hholder => ?_⟩
  · refine h.applyAll_idle (fun m hm => ?_) now n.pending
    exact MissionState.holder?_eq_none (hidle m hm)
  · have hsame : Fleet.SameBut holder payload.id f (f.applyAll payload.id now n.pending) := by
      refine h.sameBut_applyAll (fun m' hm' => ?_) now n.pending
      cases hm.symm.trans hm'
      exact .inr hholder
    -- The session's rover is not the holder, so it is one of those that nothing happens to.
    have hother : rover ≠ holder := by
      rintro rfl
      exact hlost m hm hholder
    exact ⟨hsame, hsame.rovers rover hother, h.applyAll_eq_self_iff hm hholder now n.pending⟩

/-- The mission has been taken from the first rover and the second one works on
    it when the first session tells that it was accepted. -/
theorem superseded_events_accepted :
    let draft : Draft := ⟨.zero, .zero, .zero, .zero, "scan", 60, 30, none, 1⟩
    let payload := draft.mission 1 0
    let f := Fleet.empty.performAll [.register 1 none, .register 2 none, .submit draft 0,
      .assign 1 1, .update 1 .revert, .assign 2 1, .update 1 .confirm]
    let news (kind : Kind) (seq : Int) (payload : Payload) : Message :=
      { kind, sender := 1, receiver := coordinatorId, mission := 1, seq, success := true, payload }
    let turns : List Turn := [.input (.greet 0), .input (.hear (news .response 1 .empty) 1),
      .input (.sent 1), .input (.hear (news .ack 1 (.ack .complete)) 2)]
    ∃ s, Supervisor.prepare {} 1 payload = .ok s ∧
      let n := (start s).run turns
      n.pending = [.accepted] ∧ f.applyAll n.supervisor.mission.id 2 n.pending = f := by
  intro draft payload f news turns
  have hstate : (f.missions.find? payload.id).map MissionRecord.state = some (.inProgress 2) := by
    decide +kernel
  have hrun : ∃ s, Supervisor.prepare {} 1 payload = .ok s ∧
      ((start s).run turns).pending = [.accepted] :=
    Supervisor.exists_prepare_of_check (by decide +kernel)
  rcases Option.map_eq_some_iff.1 hstate with ⟨m, hm, hm'⟩
  rcases hrun with ⟨s, hs, hpending⟩
  have hlost : ∀ m', f.missions.find? payload.id = some m' → m'.state.holder? ≠ some 1 := by
    intro m' hfind
    cases hm.symm.trans hfind
    rw [hm']
    decide
  have hholder : m.state.holder? = some 2 := by rw [hm']; rfl
  rcases (superseded_events _ hs turns 2 hlost).2 m 2 hm hholder with ⟨-, -, hself⟩
  refine ⟨s, hs, hpending, hself.2 (fun e he => ⟨?_, hm'⟩)⟩
  rw [hpending] at he
  exact List.mem_singleton.1 he

/-- The first rover has the mission when it is taken back and given to the
    second one, and then the first session reads that it is completed. The
    mission counts as completed by the second rover, which is free again although
    it has not even received it. -/
theorem superseded_session_completes :
    let draft : Draft := ⟨.zero, .zero, .zero, .zero, "scan", 60, 30, none, 1⟩
    let payload := draft.mission 1 0
    let f := Fleet.empty.performAll [.register 1 none, .register 2 none, .submit draft 0,
      .assign 1 1, .update 1 .confirm, .update 1 .revert, .assign 2 1]
    let news (kind : Kind) (seq : Int) (payload : Payload) : Message :=
      { kind, sender := 1, receiver := coordinatorId, mission := 1, seq, success := true, payload }
    let turns : List Turn := [.input (.greet 0), .input (.hear (news .response 1 .empty) 1),
      .input (.sent 1), .input (.hear (news .ack 1 (.ack .complete)) 2), .collect,
      .input (.hear (news .completed 1 .empty) 3)]
    ∃ s, Supervisor.prepare {} 1 payload = .ok s ∧
      let n := (start s).run turns
      let f' := f.applyAll n.supervisor.mission.id 3 n.pending
      (f.missions.find? 1).map (fun m => (m.mission, m.state)) = some (payload, .assigned 2) ∧
        (f.rovers.find? 2).map RoverRecord.state = some (.receiving 1) ∧
        n.pending = [.completed] ∧ f' ≠ f ∧
        (f'.missions.find? 1).map MissionRecord.state = some (.completed 2) ∧
        (f'.rovers.find? 2).map RoverRecord.state = some .available := by
  intro draft payload f news turns
  exact Supervisor.exists_prepare_of_check (by decide +kernel)

end Narration

end RoverDispatch
