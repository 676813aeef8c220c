import RoverDispatch.Proofs.Session.Lifecycles

/-!
# Chronicles of an Agent

The sessions of an agent, one after the other.

The chronicle of an agent puts every event down to the session in which it was
told, so that the milestones of each session can be looked at in order.
Sessions are told apart by their missions: a hello about the mission of a
session is answered in this session, and never opens another.

What one input can make of a session is known from its passage, so every input
either adds to the episode of the session that there is, or ends it and
perhaps begins the next.

## Main definitions

* `Episode`, `Chronicle`: The sessions of an agent, with what was told in them.
* `Episode.IsWhole`, `Underway`: The milestones of a session that has ended and
  of the one there is.
* `Chronicle.input`, `Chronicle.run`: What happens to the agent.
* `Chronicle.Sound`: What holds of the episodes after every input.

## Theorems

* `Underway.goes_on`, `Underway.ends`: What a turn makes of an episode.
* `Chronicle.Sound.run`: The chronicle is sound after any inputs.
* `Chronicle.Sound.input_of_busy`: A busy session stays until it closes.
* `Chronicle.sessions_well_told`: The life of every session of an agent.
-/

namespace RoverDispatch

/-- A session of an agent: its mission, and all events that were told in it. -/
structure Episode where
  mission : Int
  events : List AgentEvent
  deriving DecidableEq

/-- An agent with all events, the sessions that have ended and the one there is,
    in order. -/
structure Chronicle where
  agent : Agent
  events : List AgentEvent
  past : List Episode
  present : Option Episode
  deriving DecidableEq

/-- More is told in a session. -/
def Episode.tell (e : Episode) (events : List AgentEvent) : Episode :=
  { e with events := e.events ++ events }

/-- The session of an episode that has ended was told to close once, and to
    start at most once before that. Why it closed depends on whether it has
    started. -/
inductive Episode.IsWhole (e : Episode) : Prop where
  | unstarted {reason : CloseReason} (cause : reason = .superseded ∨ reason = .transferAbandoned)
      (told : milestones e.events = [.sessionClosed e.mission reason])
  | started (m : Mission) {reason : CloseReason}
      (cause : reason = .confirmed ∨ reason = .unconfirmed)
      (told : milestones e.events = [.missionStarted m, .sessionClosed e.mission reason])

/-- The session that there is and what was told in it: that its mission has
    started, once it has. -/
inductive Underway : Option AgentSession → Option Episode → Prop where
  | without : Underway none none
  | unstarted {s : AgentSession} {e : Episode} (mission : e.mission = s.mission)
      (free : s.isBusy = false) (told : milestones e.events = []) : Underway (some s) (some e)
  | started {s : AgentSession} {e : Episode} (mission : e.mission = s.mission)
      (busy : s.isBusy = true) (m : Mission) (told : milestones e.events = [.missionStarted m]) :
      Underway (some s) (some e)

section Underway

variable {s s' : Option AgentSession} {e : Option Episode} {events : List AgentEvent}

theorem Episode.milestones_tell (e : Episode) (events : List AgentEvent) :
    milestones (e.tell events).events = milestones e.events ++ milestones events :=
  milestones_append ..

/-- A turn that does not end the session of an episode. -/
theorem Underway.goes_on (h : Underway s e) (hpassage : Passage s s' (milestones events))
    (hsame : s'.map AgentSession.mission = s.map AgentSession.mission) :
    Underway s' (e.map (Episode.tell · events)) := by
  generalize hms : milestones events = ms at hpassage
  have htell : ∀ e : Episode, milestones (e.tell events).events = milestones e.events ++ ms :=
    fun e => hms ▸ e.milestones_tell events
  -- The mission before and after is the same, so nothing opened or closed.
  cases hpassage with
  | lasts lasts =>
      cases lasts with
      | without =>
          cases h with
          | without => exact .without
      | within mission' busy' =>
          cases h with
          | unstarted mission free told =>
              refine .unstarted (mission.trans mission'.symm) (busy'.trans free) ?_
              rw [htell, told, List.append_nil]
          | started mission busy m told =>
              refine .started (mission.trans mission'.symm) (busy'.trans busy) m ?_
              rw [htell, told, List.append_nil]
  | opens free => cases hsame
  | starts mission' free' busy' m =>
      cases h with
      | unstarted mission free told =>
          refine .started (mission.trans mission'.symm) busy' m ?_
          rw [htell, told, List.nil_append]
      | started mission busy m told => exact absurd (free'.symm.trans busy) nofun
  | abandoned free => cases hsame
  | ends busy reported => cases hsame
  -- The session that supersedes another one has another mission.
  | superseded free other =>
      rcases Option.map_eq_some_iff.1 hsame with ⟨t, ht, hmission⟩
      exact absurd hmission (other t ht).1

/-- A turn that ends the session of an episode. The next episode begins with
    nothing told. -/
theorem Underway.ends (h : Underway s e) (hpassage : Passage s s' (milestones events))
    (hother : s'.map AgentSession.mission ≠ s.map AgentSession.mission) :
    (∀ e' ∈ e.map (Episode.tell · events), e'.IsWhole) ∧
      Underway s' ((s'.map AgentSession.mission).map (⟨·, []⟩)) := by
  generalize hms : milestones events = ms at hpassage
  have htell : ∀ e : Episode, milestones (e.tell events).events = milestones e.events ++ ms :=
    fun e => hms ▸ e.milestones_tell events
  -- What the episode knows about the start decides which way of closing is left.
  cases hpassage with
  | lasts lasts =>
      cases lasts with
      | without => exact absurd rfl hother
      | within mission busy => exact absurd (congrArg some mission) hother
  | opens free =>
      cases h with
      | without => exact ⟨fun e he => absurd he nofun, .unstarted rfl free rfl⟩
  | starts mission free busy m => exact absurd (congrArg some mission) hother
  | abandoned free =>
      cases h with
      | unstarted mission free told =>
          refine ⟨?_, .without⟩
          rintro e' he
          cases he
          refine .unstarted (.inr rfl) ?_
          rw [htell, told, List.nil_append, ← mission]
          rfl
      | started mission busy m told => exact absurd (free.symm.trans busy) nofun
  | ends busy reported =>
      cases h with
      | unstarted mission free told => exact absurd (free.symm.trans busy) nofun
      | started mission busy m told =>
          refine ⟨?_, .without⟩
          rintro e' he
          cases he
          refine .started m reported ?_
          rw [htell, told, ← mission]
          rfl
  -- Only here a new session opens in the same turn.
  | superseded free other =>
      cases h with
      | unstarted mission free told =>
          refine ⟨?_, ?_⟩
          · rintro e' he
            cases he
            refine .unstarted (.inl rfl) ?_
            rw [htell, told, List.nil_append, ← mission]
            rfl
          · cases s' with
            | none => exact .without
            | some t => exact .unstarted rfl (other t rfl).2 rfl
      | started mission busy m told => exact absurd (free.symm.trans busy) nofun

/-- A session has an episode. -/
theorem Underway.episode (h : Underway s e) {t : AgentSession} (hs : s = some t) :
    ∃ e', e = some e' ∧ e'.mission = t.mission := by
  cases h with
  | without => cases hs
  | unstarted mission free told =>
      cases hs
      exact ⟨_, rfl, mission⟩
  | started mission busy m told =>
      cases hs
      exact ⟨_, rfl, mission⟩

/-- Nothing is told of sessions when there is none. -/
theorem Underway.milestones_flatMap (h : Underway s e)
    (hpassage : Passage s s' (milestones events)) :
    (e.map (Episode.tell · events)).toList.flatMap (fun e => milestones e.events) =
      e.toList.flatMap (fun e => milestones e.events) ++ milestones events := by
  cases e with
  | none =>
      cases h with
      | without =>
          -- An agent without a session tells no milestones, whatever it opens.
          generalize milestones events = ms at hpassage ⊢
          cases hpassage <;> rfl
  | some e =>
      simp only [Option.map_some, Option.toList_some, List.flatMap_singleton, e.milestones_tell]

end Underway

namespace Chronicle

/-- Nothing has happened yet. -/
def start (agent : Agent) : Chronicle := { agent, events := [], past := [], present := none }

/-- Something happens to the agent. What it tells belongs to the session that it
    had; if that session is gone afterwards, its episode has ended. -/
def input (c : Chronicle) (i : Agent.Input) : Chronicle :=
  let r := c.agent.react i
  let events := c.events ++ r.events
  let told := c.present.map (Episode.tell · r.events)
  let mission := r.state.session.map AgentSession.mission
  if mission = c.agent.session.map AgentSession.mission then
    { agent := r.state, events, past := c.past, present := told }
  else
    { agent := r.state, events, past := c.past ++ told.toList, present := mission.map (⟨·, []⟩) }

/-- A number of things happen to the agent. -/
def run (c : Chronicle) (inputs : List Agent.Input) : Chronicle := inputs.foldl input c

/-- All episodes in order. -/
def episodes (c : Chronicle) : List Episode := c.past ++ c.present.toList

/-- Every session has been told from its beginning to its end, and nothing else
    was told of sessions. -/
structure Sound (id : Int) (c : Chronicle) : Prop where
  id : c.agent.id = id
  silent : ∀ s, c.agent.session = some s → s.Silent
  past : ∀ e : Episode, e ∈ c.past → e.IsWhole
  present : Underway c.agent.session c.present
  told : milestones c.events = c.episodes.flatMap (fun e => milestones e.events)

section Run

variable {id : Int} {c : Chronicle} {i : Agent.Input}

/-- The session of the agent goes on, or there is still none. -/
theorem input_of_same (h : (c.agent.react i).state.session.map AgentSession.mission =
    c.agent.session.map AgentSession.mission) :
    c.input i =
      { agent := (c.agent.react i).state, events := c.events ++ (c.agent.react i).events
        past := c.past, present := c.present.map (Episode.tell · (c.agent.react i).events) } :=
  if_pos h

/-- The session of the agent has ended, or there was none. -/
theorem input_of_other (h : (c.agent.react i).state.session.map AgentSession.mission ≠
    c.agent.session.map AgentSession.mission) :
    c.input i =
      { agent := (c.agent.react i).state, events := c.events ++ (c.agent.react i).events
        past := c.past ++ (c.present.map (Episode.tell · (c.agent.react i).events)).toList
        present := ((c.agent.react i).state.session.map AgentSession.mission).map (⟨·, []⟩) } :=
  if_neg h

theorem Sound.start (id : Int) (timing : Timing) (rover : Rover) :
    (Chronicle.start (.start id timing rover)).Sound id where
  id := rfl
  silent := fun _ hs => absurd hs nofun
  past := fun _ he => absurd he List.not_mem_nil
  present := .without
  told := rfl

/-- Every input keeps the chronicle sound. -/
theorem Sound.input (h : c.Sound id) (i : Agent.Input) : (c.input i).Sound id := by
  have hpasses := Agent.passes h.silent i
  have htold := h.present.milestones_flatMap hpasses.passage
  have hevents : milestones (c.events ++ (c.agent.react i).events) =
      (c.past ++ (c.present.map (Episode.tell · (c.agent.react i).events)).toList).flatMap
        (fun e => milestones e.events) := by
    rw [milestones_append, h.told, episodes, List.flatMap_append, List.flatMap_append, htold,
      List.append_assoc]
  by_cases hsame : (c.agent.react i).state.session.map AgentSession.mission =
      c.agent.session.map AgentSession.mission
  · rw [input_of_same hsame]
    exact ⟨hpasses.id.trans h.id, hpasses.silent, h.past,
      h.present.goes_on hpasses.passage hsame, hevents⟩
  · rw [input_of_other hsame]
    rcases h.present.ends hpasses.passage hsame with ⟨hwhole, hnext⟩
    refine ⟨hpasses.id.trans h.id, hpasses.silent, ?_, hnext, ?_⟩
    · intro e he
      rcases List.mem_append.1 he with he | he
      · exact h.past e he
      · exact hwhole e (Option.mem_toList.1 he)
    · -- The next episode has nothing told in it yet.
      rw [hevents]
      simp only [episodes, List.flatMap_append]
      cases (c.agent.react i).state.session with
      | none => exact (List.append_nil _).symm
      | some t => exact (List.append_nil _).symm

/-- The chronicle is sound after any inputs. -/
theorem Sound.run (h : c.Sound id) (inputs : List Agent.Input) : (c.run inputs).Sound id := by
  induction inputs generalizing c with
  | nil => exact h
  | cons i inputs ih => exact ih (h.input i)

/-- A busy session stays the session of the agent until it closes, and none takes
    its place at once. -/
theorem Sound.input_of_busy (h : c.Sound id) {s : AgentSession} (hs : c.agent.session = some s)
    (hbusy : s.isBusy = true) (i : Agent.Input) :
    (∃ t, (c.input i).agent.session = some t ∧ t.mission = s.mission ∧ t.isBusy = true ∧
        (c.input i).past = c.past) ∨
      (c.input i).agent.session = none ∧
        ∃ e : Episode, e.mission = s.mission ∧ (c.input i).past = c.past ++ [e] := by
  have hpassage := (Agent.passes h.silent i).passage
  rw [hs] at hpassage
  rcases hpassage.of_busy hbusy with ⟨t, ht, hmission, hbusy', -⟩ | ⟨hnone, -⟩
  · rw [input_of_same (by rw [ht, hs]; exact congrArg some hmission)]
    exact .inl ⟨t, ht, hmission, hbusy', rfl⟩
  · rw [input_of_other (by rw [hnone, hs]; exact nofun)]
    rcases h.present.episode hs with ⟨e, he, hmission⟩
    exact .inr ⟨hnone, e.tell _, hmission, by rw [he]; rfl⟩

end Run

/-- The life of every session of an agent, whatever happens to it. A session that
    has ended was told to close once, with its mission; it closed as superseded or
    as abandoned if its mission never started, and as confirmed or unconfirmed if
    its mission started, which was told once and before. The session there is has
    told at most that its mission started, and nothing else was told of sessions.
    While a session is busy there is no other until it closes, and a message to
    another receiver or about another mission changes nothing at all about the
    agent; a hello among them is declined. -/
theorem sessions_well_told (id : Int) (timing : Timing) (rover : Rover)
    (inputs : List Agent.Input) :
    let c := (start (.start id timing rover)).run inputs
    (∀ e ∈ c.past, e.IsWhole) ∧
    Underway c.agent.session c.present ∧
    milestones c.events = c.episodes.flatMap (fun e => milestones e.events) ∧
    ∀ s, c.agent.session = some s → s.isBusy = true →
      (∀ i,
        (∃ t, (c.input i).agent.session = some t ∧ t.mission = s.mission ∧ t.isBusy = true ∧
          (c.input i).past = c.past) ∨
        (c.input i).agent.session = none ∧
          ∃ e : Episode, e.mission = s.mission ∧ (c.input i).past = c.past ++ [e]) ∧
      ∀ x now, x.receiver ≠ id ∨ x.mission ≠ s.mission →
        c.agent.receive x now =
          if x.receiver = id ∧ x.kind = .hello then
            { state := c.agent, messages := [c.agent.response x false],
              events := [.helloDeclined x.mission] }
          else { state := c.agent } := by
  intro c
  have h : c.Sound id := (Sound.start id timing rover).run inputs
  refine ⟨h.past, h.present, h.told, fun s hs hbusy => ⟨h.input_of_busy hs hbusy, ?_⟩⟩
  intro x now hx
  -- The agent keeps the number that it was made with.
  rw [← h.id] at hx ⊢
  exact Agent.receive_foreign hs hbusy hx now

/-- A hello takes the place of a session, the next one finds the rover busy, and
    one to another rover is not heard at all. -/
theorem sessions_well_told_superseded :
    let m : Mission := ⟨2, .zero, .zero, .zero, .zero, "scan", 60, 2, 0, 1⟩
    let hello (mission : Int) : Message := { kind := .hello, sender := 0, receiver := 7, mission }
    let inputs : List Agent.Input := [.hear (hello 1) 0, .hear (hello 2) 1,
      .hear { hello 2 with kind := .mission, seq := 1, payload := .mission m } 2]
    let c := (start (.start 7 {} (.start {} .zero .zero .hundred none))).run inputs
    c.past = [⟨1, [.sessionClosed 1 .superseded]⟩] ∧
      milestones c.events = [.sessionClosed 1 .superseded, .missionStarted m] ∧
      (c.agent.receive (hello 3) 3).events = [.helloDeclined 3] ∧
      c.agent.receive { hello 3 with receiver := 8 } 3 = { state := c.agent } := by
  intro m hello inputs c
  have htold := sessions_well_told 7 {} (.start {} .zero .zero .hundred none) inputs
  have hrun : c.past = [⟨1, [.sessionClosed 1 .superseded]⟩] ∧
      c.episodes.flatMap (fun e => milestones e.events) =
        [.sessionClosed 1 .superseded, .missionStarted m] ∧
      ∃ s ∈ c.agent.session, s.isBusy = true ∧ s.mission = 2 := by
    decide +kernel
  rcases hrun with ⟨hpast, hepisodes, s, hs, hbusy, hmission⟩
  rcases htold with ⟨-, -, htold, hforeign⟩
  have hforeign := (hforeign s hs hbusy).2
  refine ⟨hpast, htold.trans hepisodes, ?_, ?_⟩
  · rw [hforeign (hello 3) 3 (.inr (by rw [hmission]; decide)), if_pos ⟨rfl, rfl⟩]
  · rw [hforeign _ 3 (.inl (by decide)), if_neg (by decide)]

end Chronicle

end RoverDispatch
