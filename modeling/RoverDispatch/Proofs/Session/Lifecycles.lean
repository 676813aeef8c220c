import RoverDispatch.Proofs.Session.Agents

/-!
# Lifecycles of an Agent's Sessions

What becomes of the session of an agent, whoever talks to it.

Nothing is assumed about the messages: they can be about any mission, come
from anyone, and bring transfers that contradict each other. Still every
session has the same life. It opens with a hello; its mission starts or does
not; it closes. A session that closes before its mission has started closes
because another took its place or because the transfer fell silent, and one
whose mission has started closes because of its terminal report. This holds
because reports are made only by a mission that has started, so nothing can be
confirmed or given up before.

A session tells two things about itself, that its mission starts and that it
closes; these are its milestones. `Passage` says what a turn of the agent can
make of its session, and which milestone is told for it. A turn tells one at
most.

## Main definitions

* `AgentEvent.isMilestone`, `milestones`: What a session tells about itself.
* `AgentSession.Silent`: Nothing is reported before the mission starts.
* `Passage`: What a turn makes of a session.
* `Agent.Passes`: What a reaction of an agent makes of its session.
* `Agent.Input`, `Agent.react`, `Agent.run`: What happens to an agent.

## Theorems

* `Passage.of_busy`: A session whose mission has started stays or closes.
* `Agent.passes_receive`, `Agent.passes_poll`: What messages and time make of a
  session.
* `Agent.poll_of_free`: Before the mission starts, a poll is all about the
  transfer.
* `Agent.passes`: What an input makes of a session.
* `Agent.receive_foreign`: A busy agent is left alone by messages about
  anything else.
-/

namespace RoverDispatch

/-! ### Milestones -/

/-- What a session tells about itself: that its mission starts, and that it
    closes. -/
def AgentEvent.isMilestone : AgentEvent → Bool
  | missionStarted _ => true
  | sessionClosed _ _ => true
  | _ => false

/-- The milestones among events. -/
def milestones (events : List AgentEvent) : List AgentEvent :=
  events.filter AgentEvent.isMilestone

/-- A milestone is an event. -/
theorem mem_of_milestones {events : List AgentEvent} {e : AgentEvent}
    (h : milestones events = [e]) : e ∈ events :=
  List.mem_of_mem_filter (h.symm ▸ List.mem_singleton_self e)

theorem missionStarted_mem_milestones {events : List AgentEvent} {m : Mission} :
    .missionStarted m ∈ milestones events ↔ .missionStarted m ∈ events :=
  List.mem_filter.trans (and_iff_left rfl)

theorem count_milestones (events : List AgentEvent) (m : Mission) :
    (milestones events).count (.missionStarted m) = events.count (.missionStarted m) :=
  List.count_filter rfl

theorem milestones_append (events events' : List AgentEvent) :
    milestones (events ++ events') = milestones events ++ milestones events' :=
  List.filter_append ..

/-- A session goes on, or there is none. -/
inductive Lasts : Option AgentSession → Option AgentSession → Prop where
  | without : Lasts none none
  | within {s s' : AgentSession} (mission : s'.mission = s.mission) (busy : s'.isBusy = s.isBusy) :
      Lasts (some s) (some s')

/-- What a turn of an agent makes of its session, and the milestone that is told
    for it. -/
inductive Passage : Option AgentSession → Option AgentSession → List AgentEvent → Prop where
  | lasts {s s' : Option AgentSession} (lasts : Lasts s s') : Passage s s' []
  | opens {s : AgentSession} (free : s.isBusy = false) : Passage none (some s) []
  | starts {s s' : AgentSession} (mission : s'.mission = s.mission) (free : s.isBusy = false)
      (busy : s'.isBusy = true) (m : Mission) : Passage (some s) (some s') [.missionStarted m]
  /-- A session before its start closes because the transfer fell silent. -/
  | abandoned {s : AgentSession} (free : s.isBusy = false) :
      Passage (some s) none [.sessionClosed s.mission .transferAbandoned]
  /-- A session after its start closes because of its terminal report. -/
  | ends {s : AgentSession} (busy : s.isBusy = true) {reason : CloseReason}
      (reported : reason = .confirmed ∨ reason = .unconfirmed) :
      Passage (some s) none [.sessionClosed s.mission reason]
  /-- A hello about another mission takes the place of a session before its
      start, and opens a session unless the rover is out of order. -/
  | superseded {s : AgentSession} {s' : Option AgentSession} (free : s.isBusy = false)
      (other : ∀ t ∈ s', t.mission ≠ s.mission ∧ t.isBusy = false) :
      Passage (some s) s' [.sessionClosed s.mission .superseded]

section Passage

variable {s s' s'' : Option AgentSession} {ms : List AgentEvent}

theorem Lasts.refl (s : Option AgentSession) : Lasts s s := by
  cases s with
  | none => exact .without
  | some s => exact .within rfl rfl

/-- What a session that goes on comes to in the end. -/
theorem Lasts.trans_passage (h : Lasts s s') (h' : Passage s' s'' ms) : Passage s s'' ms := by
  cases h with
  | without => exact h'
  -- It is the same session up to then, with the same mission and busy or not as before.
  | within mission busy =>
      cases h' with
      | lasts lasts =>
          cases lasts with
          | within mission' busy' =>
              exact .lasts (.within (mission'.trans mission) (busy'.trans busy))
      | starts mission' free' busy' m =>
          exact .starts (mission'.trans mission) (busy.symm.trans free') busy' m
      | abandoned free' =>
          rw [mission]
          exact .abandoned (busy.symm.trans free')
      | ends busy' reported =>
          rw [mission]
          exact .ends (busy.symm.trans busy') reported
      | superseded free' other =>
          rw [mission] at other ⊢
          exact .superseded (busy.symm.trans free') other

/-- A session whose mission has started stays as it is, or closes because of its
    terminal report. -/
theorem Passage.of_busy {s : AgentSession} (h : Passage (some s) s' ms) (hbusy : s.isBusy = true) :
    (∃ t, s' = some t ∧ t.mission = s.mission ∧ t.isBusy = true ∧ ms = []) ∨
      s' = none ∧ ∃ reason, (reason = .confirmed ∨ reason = .unconfirmed) ∧
        ms = [.sessionClosed s.mission reason] := by
  cases h with
  | lasts lasts =>
      cases lasts with
      | within mission busy => exact .inl ⟨_, rfl, mission, busy.trans hbusy, rfl⟩
  | starts mission free busy m => exact absurd (free.symm.trans hbusy) nofun
  | abandoned free => exact absurd (free.symm.trans hbusy) nofun
  | ends busy reported => exact .inr ⟨rfl, _, reported, rfl⟩
  | superseded free other => exact absurd (free.symm.trans hbusy) nofun

/-- A mission starts in a session in which none has started, and that goes on. -/
theorem Passage.of_started (h : Passage s s' ms) {m : Mission} (hm : .missionStarted m ∈ ms) :
    ∃ t t', s = some t ∧ t.isBusy = false ∧ s' = some t' ∧ t'.isBusy = true := by
  cases h with
  | lasts lasts => cases hm
  | opens free => cases hm
  | starts mission free busy m => exact ⟨_, _, rfl, free, rfl, busy⟩
  | abandoned free => cases List.mem_singleton.1 hm
  | ends busy reported => cases List.mem_singleton.1 hm
  | superseded free other => cases List.mem_singleton.1 hm

/-- A turn tells one milestone at most. -/
theorem Passage.length_le (h : Passage s s' ms) : ms.length ≤ 1 := by
  cases h <;> simp

end Passage

section Heard

variable (s : AgentSession) (now : Nat)

/-- To be heard of changes neither the mission of a session, -/
theorem AgentSession.heard_mission : (s.heard now).mission = s.mission := by
  rw [heard]
  split <;> rfl

/-- nor its reports, -/
theorem AgentSession.heard_reports : (s.heard now).reports = s.reports := by
  rw [heard]
  split <;> rfl

/-- nor whether it is busy. -/
theorem AgentSession.heard_isBusy : (s.heard now).isBusy = s.isBusy := by
  rw [heard]
  split
  · rename_i r hr
    rw [isBusy_eq hr]
    rfl
  · rfl

end Heard

/-- Nothing is reported before the mission starts. -/
def AgentSession.Silent (s : AgentSession) : Prop := s.isBusy = false → s.reports.Fresh

theorem AgentSession.Silent.of_busy {s : AgentSession} (h : s.isBusy = true) : s.Silent :=
  fun hfree => absurd (hfree.symm.trans h) nofun

namespace Agent

/-- What an agent can do at a time, whatever it is told. -/
structure Passes (a : Agent) (r : AgentReaction) : Prop where
  id : r.state.id = a.id
  silent : ∀ s ∈ r.state.session, s.Silent
  passage : Passage a.session r.state.session (milestones r.events)

variable {a : Agent} {s : AgentSession}

theorem Passes.quiet (h : ∀ s ∈ a.session, s.Silent) {messages : List Message}
    {events : List AgentEvent} (hevents : milestones events = []) :
    a.Passes { state := a, messages, events } :=
  ⟨rfl, h, hevents ▸ .lasts (.refl _)⟩

/-- A session that goes on. -/
theorem Passes.within (hs : a.session = some s) {s' : AgentSession}
    (hmission : s'.mission = s.mission) (hbusy : s'.isBusy = s.isBusy) (hsilent : s'.Silent)
    {messages : List Message} {events : List AgentEvent} (hevents : milestones events = []) :
    a.Passes { state := a.within s', messages, events } where
  id := rfl
  silent := by
    rintro t ht
    cases ht
    exact hsilent
  passage := by
    rw [hs, hevents]
    exact .lasts (.within hmission hbusy)

/-- A session closes because of its terminal report. -/
theorem Passes.close (hs : a.session = some s) (hbusy : s.isBusy = true) {reason : CloseReason}
    (hreported : reason = .confirmed ∨ reason = .unconfirmed) {r : AgentReaction}
    (hid : r.state.id = a.id) (hnone : r.state.session = none)
    (hevents : milestones r.events = [.sessionClosed s.mission reason]) : a.Passes r where
  id := hid
  silent := by
    intro t ht
    cases hnone.symm.trans ht
  passage := by
    rw [hs, hnone, hevents]
    exact .ends hbusy hreported

/-- A session in which nothing is reported goes on. -/
theorem Passes.keeps (h : ∀ s ∈ a.session, s.Silent) (hs : a.session = some s) {s' : AgentSession}
    (hmission : s'.mission = s.mission) (hreports : s'.reports = s.reports)
    (hbusy : s'.isBusy = s.isBusy) {messages : List Message} :
    a.Passes { state := a.within s', messages } := by
  refine .within hs hmission hbusy ?_ rfl
  rw [AgentSession.Silent, hreports, hbusy]
  exact h s hs

/-! ### Messages -/

/-- A hello that finds no session in its way opens one, or is declined. -/
theorem welcome_session (a : Agent) (hello : Message) (now : Nat) :
    (a.welcome hello now).state.id = a.id ∧
    ((a.welcome hello now).state.session = none ∨
      (a.welcome hello now).state.session = some (a.openSession hello now)) ∧
    milestones (a.welcome hello now).events = [] := by
  rw [welcome]
  split
  · exact ⟨rfl, .inl rfl, rfl⟩
  · exact ⟨rfl, .inr rfl, rfl⟩

theorem passes_onHello (h : ∀ s ∈ a.session, s.Silent) (hello : Message) (now : Nat) :
    a.Passes (a.onHello hello now) := by
  rcases a.welcome_session hello now with ⟨hid, hopens, hevents⟩
  -- A session that has just opened has reported nothing.
  have hsilent : ∀ s ∈ (a.welcome hello now).state.session, s.Silent := by
    intro s hs _
    rcases hopens with he | he <;> rw [he] at hs <;> cases hs
    exact .start ..
  cases hs : a.session with
  | none =>
      simp only [onHello, hs]
      refine ⟨hid, hsilent, ?_⟩
      rw [hs, hevents]
      rcases hopens with he | he <;> rw [he]
      · exact .lasts .without
      · exact .opens rfl
  | some s =>
      simp only [onHello, hs]
      split
      · -- The hello of the session is answered once more.
        exact .keeps h hs (s.heard_mission now) (s.heard_reports now) (s.heard_isBusy now)
      · rename_i hother
        split
        · exact .quiet h rfl
        · rename_i hbusy
          refine ⟨hid, hsilent, ?_⟩
          rw [hs]
          change Passage _ _ (.sessionClosed s.mission .superseded :: milestones _)
          rw [hevents]
          refine .superseded (eq_false_of_ne_true hbusy) ?_
          intro t ht
          rcases hopens with he | he <;> rw [he] at ht <;> cases ht
          exact ⟨fun hsame => hother hsame.symm, rfl⟩

/-- The mission that has arrived starts. -/
theorem passes_execute (hs : a.session = some s) (hfree : s.isBusy = false) {s' : AgentSession}
    (hmission : s'.mission = s.mission) (seq : Int) (m : Mission) (now : Nat) :
    a.Passes (a.execute s' seq m now) where
  id := rfl
  silent := by
    rintro t ht
    cases ht
    exact .of_busy rfl
  passage := by
    rw [hs]
    refine .starts ?_ hfree ?_ m
    · exact hmission
    · rfl

theorem passes_onTransfer (h : ∀ s ∈ a.session, s.Silent) (hs : a.session = some s)
    (hfree : s.isBusy = false) (r : Reception) (x : Message) (now : Nat) :
    a.Passes (a.onTransfer s r x now) := by
  have hkeeps : ∀ (total : Int) (r' : Reception) (messages : List Message),
      a.Passes { state := a.within { s with total, stage := .receiving r' }, messages } := by
    intro total r' messages
    refine .keeps h hs ?_ ?_ ?_
    · rfl
    · rfl
    · exact hfree.symm
  simp only [onTransfer]
  split
  · exact passes_execute hs hfree rfl _ _ _
  · split
    · -- Whether the fragment completes the mission is the reception's affair.
      simp only [onFragment]
      split
      · exact hkeeps _ _ _
      · exact hkeeps _ _ _
      · refine passes_execute hs hfree ?_ _ _ _
        rfl
    · exact hkeeps _ _ _
  · exact hkeeps _ _ _

theorem passes_onMission (h : ∀ s ∈ a.session, s.Silent) (x : Message) (now : Nat) :
    a.Passes (a.onMission x now) := by
  cases hs : a.session with
  | none =>
      simp only [onMission, hs]
      exact .quiet h rfl
  | some s =>
      simp only [onMission, hs]
      split
      · exact .quiet h rfl
      · split
        · rename_i r hr
          exact passes_onTransfer h hs (AgentSession.isBusy_eq hr) r x now
        · exact .quiet h rfl

/-- A report can be confirmed only after the mission has started, because before
    there is none. -/
theorem passes_onAck (h : ∀ s ∈ a.session, s.Silent) (x : Message) (now : Nat) :
    a.Passes (a.onAck x now) := by
  cases hs : a.session with
  | none =>
      simp only [onAck, hs]
      exact .quiet h rfl
  | some s =>
      simp only [onAck, hs]
      split
      · exact .quiet h rfl
      · cases hc : s.reports.confirm? x.seq (ackIn x) with
        | none => exact .quiet h rfl
        | some c =>
            -- Something is confirmed, so something has been sent.
            have hbusy := AgentSession.isBusy_of_confirm (h s hs) hc
            simp only [onConfirmed]
            split
            · exact .close hs hbusy (.inl rfl) rfl rfl rfl
            · refine .within hs ?_ ?_ ?_ rfl
              · rfl
              · rfl
              · exact .of_busy hbusy

/-- What becomes of the session of an agent that receives a message. -/
theorem passes_receive (h : ∀ s ∈ a.session, s.Silent) (x : Message) (now : Nat) :
    a.Passes (a.receive x now) := by
  rw [receive]
  split
  · split
    · exact passes_onHello h x now
    · exact passes_onMission h x now
    · exact passes_onAck h x now
    · exact .quiet h rfl
  · exact .quiet h rfl

/-! ### Time -/

/-- A transfer that fell silent is asked for or given up. -/
theorem pollTransfer_cases (h : ∀ s ∈ a.session, s.Silent) (now : Nat) :
    ((a.pollTransfer now).state.id = a.id ∧ (∀ s ∈ (a.pollTransfer now).state.session, s.Silent) ∧
        Lasts a.session (a.pollTransfer now).state.session ∧ (a.pollTransfer now).events = []) ∨
      ∃ s, a.session = some s ∧ s.isBusy = false ∧
        a.pollTransfer now = a.close s .transferAbandoned now := by
  rw [pollTransfer]
  split
  · exact .inl ⟨rfl, h, .refl _, rfl⟩
  · rename_i s hs
    split
    · -- Only a session that still receives can fall silent in this way.
      rename_i r hr
      have hfree : s.isBusy = false := AgentSession.isBusy_eq hr
      split
      · exact .inl ⟨rfl, h, .refl _, rfl⟩
      · split
        · exact .inr ⟨s, hs, hfree, rfl⟩
        · refine .inl ⟨rfl, ?_, ?_, rfl⟩
          · rintro t ht
            cases ht
            exact fun _ => h s hs hfree
          · rw [hs]
            exact .within rfl hfree.symm
    · exact .inl ⟨rfl, h, .refl _, rfl⟩

/-- Before the mission starts, nothing is carried out. -/
theorem pollExecution_of_free (h : ∀ s, a.session = some s → s.isBusy = false) (now : Nat) :
    a.pollExecution now = a := by
  rw [pollExecution]
  split
  · rfl
  · rename_i s hs
    split
    · rename_i e he
      cases (h s hs).symm.trans (AgentSession.isBusy_eq he)
    · rfl

/-- Where nothing is reported, nothing is sent. -/
theorem pollReports_of_fresh (h : ∀ s, a.session = some s → s.reports.Fresh) (now : Nat) :
    a.pollReports now = .quiet a := by
  rw [pollReports]
  split
  · rfl
  · rename_i s hs
    simp only [(h s hs).poll now, within, ← hs]
    rfl

/-- Before the mission starts, a poll is all about the transfer. -/
theorem poll_of_free (now : Nat)
    (h : ∀ s, ((a.recover now).pollTransfer now).state.session = some s →
      s.isBusy = false ∧ s.reports.Fresh) :
    a.poll now = (a.recover now).pollTransfer now := by
  rw [poll, pollExecution_of_free (fun s hs => (h s hs).1),
    pollReports_of_fresh (fun s hs => (h s hs).2)]
  simp only [Reaction.quiet, List.append_nil]

/-- The ticks of a mission do not end its session. -/
theorem passes_pollExecution (h : ∀ s ∈ a.session, s.Silent) (now : Nat) :
    (a.pollExecution now).id = a.id ∧ (∀ s ∈ (a.pollExecution now).session, s.Silent) ∧
      Lasts a.session (a.pollExecution now).session := by
  cases hs : a.session with
  | none =>
      rw [pollExecution_of_free (fun s hs' => absurd (hs.symm.trans hs') nofun), hs]
      exact ⟨rfl, fun s hs => absurd hs nofun, .without⟩
  | some s =>
      simp only [pollExecution, hs]
      split
      · rename_i e he
        have hbusy : s.isBusy = true := AgentSession.isBusy_eq he
        generalize Drive.ticks _ _ _ = d
        -- When the mission has ended, only its reports are left, but the session stays.
        have hbusy' :
            (if d.ended then Stage.reporting else .executing d.execution).isBusy = true := by
          split <;> rfl
        refine ⟨rfl, ?_, .within ?_ ?_⟩
        · rintro t ht
          cases ht
          exact .of_busy hbusy'
        · rfl
        · exact hbusy'.trans hbusy.symm
      · exact ⟨rfl, h, hs ▸ .refl _⟩

/-- A report can be given up only after the mission has started, because before
    there is none. -/
theorem passes_pollReports (h : ∀ s ∈ a.session, s.Silent) (now : Nat) :
    a.Passes (a.pollReports now) := by
  cases hs : a.session with
  | none =>
      rw [pollReports_of_fresh (fun s hs' => absurd (hs.symm.trans hs') nofun)]
      exact .quiet h rfl
  | some s =>
      simp only [pollReports, hs]
      by_cases hbusy : s.isBusy = true
      · have hwithin : ∀ (q : ReportQueue) (messages : List Message) (events : List AgentEvent),
            milestones events = [] →
              a.Passes { state := a.within { s with reports := q }, messages, events } := by
          intro q messages events hevents
          refine .within hs ?_ ?_ ?_ hevents
          · rfl
          · rfl
          · exact .of_busy hbusy
        split
        · exact hwithin _ _ _ rfl
        · split
          · exact .close hs hbusy (.inr rfl) rfl rfl rfl
          · exact hwithin _ _ _ rfl
      · -- There is no report that could be sent or given up.
        have hpoll := (h s hs (eq_false_of_ne_true hbusy)).poll now
        simp only [hpoll]
        exact .keeps h hs rfl rfl rfl

/-- What becomes of the session of an agent that is polled. A session that
    closes because of its transfer leaves nothing for the rest of the poll. -/
theorem passes_poll (h : ∀ s ∈ a.session, s.Silent) (now : Nat) : a.Passes (a.poll now) := by
  have hrecover : ∀ s ∈ (a.recover now).session, s.Silent := by
    rw [(a.recover_eq now).1]
    exact h
  rcases pollTransfer_cases hrecover now with ⟨hid, hsilent, hgoes, hevents⟩ | ⟨s, hs, hfree, hclose⟩
  · -- The three parts of a poll follow each other in one and the same session.
    rcases passes_pollExecution hsilent now with ⟨hid', hsilent', hlasts⟩
    have hreports := passes_pollReports hsilent' now
    refine ⟨?_, hreports.silent, ?_⟩
    · exact hreports.id.trans (hid'.trans (hid.trans (a.recover_eq now).2))
    · simp only [poll, hevents, List.nil_append]
      rw [← (a.recover_eq now).1]
      exact hgoes.trans_passage (hlasts.trans_passage hreports.passage)
  · rw [poll_of_free now (by rw [hclose]; exact fun t ht => absurd ht nofun), hclose]
    refine ⟨(a.recover_eq now).2, fun t ht => absurd ht nofun, ?_⟩
    rw [← (a.recover_eq now).1, hs]
    exact .abandoned hfree

/-! ### Inputs -/

/-- What happens to an agent: a message arrives, time has passed, or its rover
    gets a fault from outside or loses it. -/
inductive Input where
  | hear (x : Message) (now : Nat)
  | wait (now : Nat)
  | inject (fault : Fault)
  | clearFault
  deriving DecidableEq

/-- What an agent makes of what happens to it. -/
def react (a : Agent) : Input → AgentReaction
  | .hear x now => a.receive x now
  | .wait now => a.poll now
  | .inject fault => .quiet (a.inject fault)
  | .clearFault => .quiet a.clearFault

/-- What an agent makes of a number of things. -/
def run (a : Agent) (inputs : List Input) : AgentReaction :=
  inputs.foldl (fun r i =>
    let r' := r.state.react i
    { state := r'.state, messages := r.messages ++ r'.messages, events := r.events ++ r'.events })
    (.quiet a)

/-- The last of a number of things. -/
theorem run_concat (a : Agent) (inputs : List Input) (i : Input) :
    a.run (inputs ++ [i]) =
      { state := ((a.run inputs).state.react i).state
        messages := (a.run inputs).messages ++ ((a.run inputs).state.react i).messages
        events := (a.run inputs).events ++ ((a.run inputs).state.react i).events } := by
  rw [run, List.foldl_append]
  rfl

/-- A number of things after others. -/
theorem run_append (a : Agent) (inputs more : List Input) :
    a.run (inputs ++ more) =
      { state := ((a.run inputs).state.run more).state
        messages := (a.run inputs).messages ++ ((a.run inputs).state.run more).messages
        events := (a.run inputs).events ++ ((a.run inputs).state.run more).events } := by
  induction more using List.reverseRecOn with
  | nil => simp only [run, List.append_nil, List.foldl_nil, Reaction.quiet]
  | append_singleton more i ih =>
      rw [← List.append_assoc, run_concat, ih, run_concat, List.append_assoc, List.append_assoc]

/-- What an input makes of the session of an agent. -/
theorem passes (h : ∀ s ∈ a.session, s.Silent) (i : Input) : a.Passes (a.react i) := by
  cases i with
  | hear x now => exact passes_receive h x now
  | wait now => exact passes_poll h now
  | inject fault => exact ⟨rfl, h, .lasts (.refl _)⟩
  | clearFault => exact ⟨rfl, h, .lasts (.refl _)⟩

/-- A busy agent is left alone by messages to others and about other missions,
    apart from declining hellos. -/
theorem receive_foreign (hs : a.session = some s) (hbusy : s.isBusy = true) {x : Message}
    (hx : x.receiver ≠ a.id ∨ x.mission ≠ s.mission) (now : Nat) :
    a.receive x now =
      if x.receiver = a.id ∧ x.kind = .hello then a.decline x else .quiet a := by
  rw [receive]
  by_cases hid : x.receiver = a.id
  · -- The message is for this agent, so it must be about another mission.
    have hother : s.mission ≠ x.mission := (hx.resolve_left (not_not_intro hid)).symm
    simp only [hid, true_and, if_true]
    cases hkind : x.kind with
    | hello => simp only [onHello, hs, if_neg hother, if_pos hbusy, if_true]
    | mission => simp only [onMission, hs, if_pos hother, reduceCtorEq, if_false]
    | ack => simp only [onAck, hs, if_pos hother, reduceCtorEq, if_false]
    | _ => simp only [reduceCtorEq, if_false]
  · rw [if_neg hid, if_neg (fun hhello => hid hhello.1)]

end Agent

end RoverDispatch
