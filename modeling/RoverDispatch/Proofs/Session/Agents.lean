import RoverDispatch.Proofs.Session.Receptions
import RoverDispatch.Proofs.Session.ReportQueues
import RoverDispatch.Session.Agent
import RoverDispatch.Session.Supervisor

/-!
# Agents on One Mission

What an agent can do when all it hears is about one mission.

An agent that is sent the hello, the transfer and the acknowledgements of a
single mission has at most a session for this mission, and the stage of the
session says what its report queue looks like: untouched while the mission is
being received, open while it is carried out, closing afterwards.
`AgentSession.Serves` is this invariant.

What the agent does is cut into turns. `Agent.Turn` lists them by what they
mean for the other end: which messages go out, whether the mission starts,
whether a report is sent, whether the session closes. Receiving a message is
one turn; polling is three of them. Everything that is proved about
conversations needs the turns only, and not how a message is handled.

## Main definitions

* `ReportQueue.Fresh`: Nothing has been put into a queue.
* `Stage.Suits`: What a report queue looks like at a stage.
* `AgentSession.Serves`: A session for the mission.
* `Mission.Directs`: What is sent to the agent about a mission.
* `Agent.Turn`: What an agent does at a time.
* `Agent.Follows`: What a reaction of an agent comes to.

## Theorems

* `Drive.ticks_sound`: Ticks put progress into the queue, and at the end one
  terminal report.
* `Agent.Turn.of_started`, `Agent.Turn.of_busy`, `Agent.Turn.of_shown`,
  `Agent.Turn.of_confirmed`: What can be concluded from a turn.
* `Agent.follows_receive`: What a message about the mission leads to.
* `Agent.follows_pollTransfer`, `Agent.follows_pollExecution`,
  `Agent.follows_pollReports`: What the passing of time leads to.
-/

namespace RoverDispatch

namespace ReportQueue

/-- Nothing has been put into a queue. -/
structure Fresh (q : ReportQueue) : Prop where
  waiting : q.waiting = []
  inFlight : q.inFlight = none
  sent : q.sent = []

theorem Fresh.start (agent coordinator mission : Int) (t : Timing) :
    (ReportQueue.start agent coordinator mission t).Fresh := ⟨rfl, rfl, rfl⟩

theorem Fresh.isOpen {q : ReportQueue} (h : q.Fresh) : q.Open := by
  rw [open_iff, h.waiting, h.sent]
  exact ⟨fun _ hr => absurd hr List.not_mem_nil, fun _ hm => absurd hm List.not_mem_nil⟩

theorem Fresh.poll {q : ReportQueue} (h : q.Fresh) (now : Nat) : q.poll now = ⟨q, [], none⟩ := by
  rw [ReportQueue.poll, h.inFlight]
  simp only [sendNext, h.waiting]

theorem Fresh.confirm? {q : ReportQueue} (h : q.Fresh) (seq : Int) (ack : Ack) :
    q.confirm? seq ack = none := by
  rw [ReportQueue.confirm?, h.inFlight]

end ReportQueue

namespace Drive

/-- The reports of a mission under way do not end it, and those of a mission
    that has ended do. -/
structure Sound (d : Drive) : Prop where
  orderly : d.reports.Orderly
  going : d.ended = false → d.reports.Open
  closing : d.ended = true → d.reports.Closing

/-- A terminal report ends the mission. -/
theorem sound_finish {d : Drive} (h : d.reports.Orderly) (hopen : d.reports.Open) {report : Report}
    (hr : report.isTerminal) :
    (d.finish report).Sound ∧ d.reports.SameSent (d.finish report).reports :=
  ⟨⟨h.enqueue report, nofun, fun _ => hopen.enqueue_terminal hr⟩, d.reports.sameSent_enqueue report⟩

/-- Progress does not. -/
theorem sound_reportProgress {d : Drive} (h : d.reports.Orderly) (hopen : d.reports.Open)
    (hgoing : d.ended = false) (elapsed : Nat) :
    (d.reportProgress elapsed).Sound ∧ d.reports.SameSent (d.reportProgress elapsed).reports := by
  have hover : d.ended ≠ true := ne_true_of_eq_false hgoing
  let p : Progress := ⟨d.reports.mission, (elapsed / 1000 : Nat), d.rover.progress⟩
  rw [reportProgress]
  split
  · exact ⟨⟨h.enqueue (.progress p), fun _ => hopen.enqueue_progress p,
      fun he => absurd he hover⟩, d.reports.sameSent_enqueue (.progress p)⟩
  · exact ⟨⟨h, fun _ => hopen, fun he => absurd he hover⟩, rfl⟩

theorem Sound.tick {d : Drive} (h : d.Sound) (hgoing : d.ended = false) (timestamp : Int) :
    (d.tick timestamp).Sound ∧ d.reports.SameSent (d.tick timestamp).reports := by
  have hopen := h.going hgoing
  simp only [Drive.tick]
  -- The rover has failed, the mission is done, or it goes on.
  split
  · refine sound_finish ?_ ?_ rfl
    · exact h.orderly
    · exact hopen
  · split
    · refine sound_finish ?_ ?_ rfl
      · exact h.orderly
      · exact hopen
    · refine sound_reportProgress ?_ ?_ ?_ _
      · exact h.orderly
      · exact hopen
      · exact hgoing

/-- Ticks put progress into the queue, and at the end one terminal report. -/
theorem ticks_sound {d : Drive} (h : d.Sound) (timestamp : Int) (n : Nat) :
    (d.ticks timestamp n).Sound ∧ d.reports.SameSent (d.ticks timestamp n).reports := by
  induction n generalizing d with
  | zero => exact ⟨h, rfl⟩
  | succ n ih =>
      rw [ticks]
      -- No tick is made after the end.
      split
      · exact ⟨h, rfl⟩
      · rename_i hgoing
        rcases h.tick (eq_false_of_ne_true hgoing) timestamp with ⟨hsound, hsame⟩
        rcases ih hsound with ⟨hsound', hsame'⟩
        exact ⟨hsound', hsame.trans hsame'⟩

end Drive

/-- What a report queue looks like at a stage. -/
def Stage.Suits (frags : List (List Field)) (q : ReportQueue) : Stage → Prop
  | receiving r => r.Collecting frags ∧ q.Fresh
  | executing _ => q.Open
  | reporting => q.Closing

/-- A session for the mission, of an agent with the given number. -/
structure AgentSession.Serves (m : Mission) (frags : List (List Field)) (agent : Int)
    (t : AgentSession) : Prop where
  mission : t.mission = m.id
  response : t.response.kind = .response
  sender : t.reports.agent = agent
  about : t.reports.mission = m.id
  orderly : t.reports.Orderly
  stage : t.stage.Suits frags t.reports

/-- What is sent to the agent about a mission. -/
inductive Mission.Directs (m : Mission) (frags : List (List Field)) (x : Message) : Prop where
  | hello (about : x.mission = m.id) (kind : x.kind = .hello)
  | transfer (about : x.mission = m.id) (kind : x.kind = .mission) (brings : m.Brings frags x)
  | ack (about : x.mission = m.id) (kind : x.kind = .ack)

namespace AgentSession

variable {m : Mission} {frags : List (List Field)} {agent : Int} {t : AgentSession}

theorem isBusy_eq {stage : Stage} (h : t.stage = stage) : t.isBusy = stage.isBusy := by
  rw [isBusy, h]

/-- The queue of a session that is still receiving is fresh. -/
theorem Serves.fresh (h : t.Serves m frags agent) (hfree : t.isBusy = false) : t.reports.Fresh := by
  have hstage := h.stage
  rw [isBusy] at hfree
  cases hs : t.stage with
  | receiving r =>
      rw [hs] at hstage
      exact hstage.2
  | executing e =>
      rw [hs] at hfree
      cases hfree
  | reporting =>
      rw [hs] at hfree
      cases hfree

/-- Before the mission starts there is no report to be confirmed. -/
theorem isBusy_of_confirm (h : t.isBusy = false → t.reports.Fresh) {seq : Int} {ack : Ack}
    {c : Confirmation} (hc : t.reports.confirm? seq ack = some c) : t.isBusy = true := by
  by_contra hfree
  rw [(h (eq_false_of_ne_true hfree)).confirm?] at hc
  cases hc

/-- What a session has sent are reports of the agent on the mission. -/
theorem Serves.reports (h : t.Serves m frags agent) {x : Message} (hx : x ∈ t.reports.sent) :
    x.kind.isReport ∧ x.sender = agent ∧ x.mission = m.id := by
  rcases h.orderly.reports x hx with ⟨report, he⟩
  rw [he, ReportQueue.message]
  exact ⟨report.isReport_kind, h.sender, h.about⟩

/-- Sending reports keeps a session that has started. -/
theorem Serves.sends (h : t.Serves m frags agent) (hbusy : t.isBusy = true) {q : ReportQueue}
    {messages : List Message} (hq : t.reports.Sends q messages) :
    { t with reports := q }.Serves m frags agent where
  mission := h.mission
  response := h.response
  sender := hq.agent.trans h.sender
  about := hq.mission.trans h.about
  orderly := hq.orderly
  stage := by
    have hstage := h.stage
    rw [isBusy] at hbusy
    cases hs : t.stage with
    | receiving r =>
        rw [hs] at hbusy
        cases hbusy
    | executing e =>
        -- What the stage asks of the queue is said of its stream alone.
        rw [hs] at hstage
        change q.Open
        rw [ReportQueue.Open, hq.stream]
        exact hstage
    | reporting =>
        rw [hs] at hstage
        change q.Closing
        rw [ReportQueue.Closing, hq.stream]
        exact hstage

end AgentSession

namespace Agent

/-- What an agent does at a time in the course of one mission, by what it means
    for the other end; the cause is the message that was received, if it was
    one. -/
inductive Turn (m : Mission) (cause : Option Message) :
    Option AgentSession → Option AgentSession → List Message → List AgentEvent → Prop where
  /-- Nothing. -/
  | rests {s : Option AgentSession} : Turn m cause s s [] []
  /-- A hello is declined. -/
  | declines {x : Message} (kind : x.kind = .response) (mission : Int) :
      Turn m cause none none [x] [.helloDeclined mission]
  /-- A session opens. -/
  | opens {t : AgentSession} {x : Message} (fresh : t.reports.Fresh) (free : t.isBusy = false)
      (kind : x.kind = .response) : Turn m cause none (some t) [x] []
  /-- The transfer is answered; only a rover that has the mission says that
      nothing is missing. -/
  | answers {t t' : AgentSession} {messages : List Message} (reports : t'.reports = t.reports)
      (busy : t'.isBusy = t.isBusy)
      (kinds : ∀ x ∈ messages, x.kind = .response ∨
        x.kind = .ack ∧ (Supervisor.missingIn x = [] → t.isBusy = true)) :
      Turn m cause (some t) (some t') messages []
  /-- The mission starts. -/
  | starts {t t' : AgentSession} {x : Message} (reports : t'.reports = t.reports)
      (busy : t'.isBusy = true) (kind : x.kind = .ack)
      (arrived : ∃ y, cause = some y ∧ y.kind = .mission) :
      Turn m cause (some t) (some t') [x] [.missionStarted m]
  /-- Time goes by on the mission, and reports may wait to be sent. -/
  | drives {t t' : AgentSession} (sent : t'.reports.sent = t.reports.sent)
      (busy : t.isBusy = true) (busy' : t'.isBusy = true) :
      Turn m cause (some t) (some t') [] []
  /-- Reports are sent. -/
  | reports {t t' : AgentSession} {messages : List Message} {events : List AgentEvent}
      (busy : t.isBusy = true) (busy' : t'.isBusy = true)
      (sends : t.reports.Sends t'.reports messages)
      (abandoned : ∀ e ∈ events, ∃ seq, e = .reportAbandoned seq) :
      Turn m cause (some t) (some t') messages events
  /-- The session closes, as confirmed only when the terminal report that is in
      flight is acknowledged. -/
  | closes {t : AgentSession} {messages : List Message} {events : List AgentEvent}
      (known : ∀ x ∈ messages, x ∈ t.reports.sent)
      (abandoned : ∀ e ∈ events, ∃ seq, e = .reportAbandoned seq) (reason : CloseReason)
      (confirmed : reason = .confirmed → ∃ y f, cause = some y ∧ y.kind = .ack ∧
        t.reports.inFlight = some f ∧ f.seq = y.seq ∧ f.terminal = true) :
      Turn m cause (some t) none messages (events ++ [.sessionClosed t.mission reason])

namespace Turn

variable {m : Mission} {frags : List (List Field)} {agent : Int} {cause : Option Message}
  {s s' : Option AgentSession} {messages : List Message} {events : List AgentEvent}

theorem not_mem_of_abandoned {e : AgentEvent}
    (h : ∀ e ∈ events, ∃ seq, e = .reportAbandoned seq) (he : ∀ seq, e ≠ .reportAbandoned seq) :
    e ∉ events := by
  intro hmem
  rcases h e hmem with ⟨seq, rfl⟩
  exact he seq rfl

/-- Only the mission starts, and only when it has arrived. -/
theorem of_started (h : Turn m cause s s' messages events) {p : Mission}
    (hp : .missionStarted p ∈ events) : p = m ∧ ∃ y, cause = some y ∧ y.kind = .mission := by
  cases h with
  | rests => cases hp
  | declines kind mission => cases List.mem_singleton.1 hp
  | opens fresh free kind => cases hp
  | answers reports busy kinds => cases hp
  | starts reports busy kind arrived =>
      cases List.mem_singleton.1 hp
      exact ⟨rfl, arrived⟩
  | drives sent busy busy' => cases hp
  -- Besides the end of the session, only reports given up are told.
  | reports busy busy' sends abandoned =>
      exact absurd hp (not_mem_of_abandoned abandoned (fun _ => nofun))
  | closes known abandoned reason confirmed =>
      rcases List.mem_append.1 hp with hp | hp
      · exact absurd hp (not_mem_of_abandoned abandoned (fun _ => nofun))
      · cases List.mem_singleton.1 hp

/-- An agent that is busy was busy before, or the mission has just started. -/
theorem of_busy (h : Turn m cause s s' messages events) {t' : AgentSession} (hs' : s' = some t')
    (hbusy : t'.isBusy = true) :
    (∃ t, s = some t ∧ t.isBusy = true) ∨ .missionStarted m ∈ events := by
  cases h with
  | rests => exact .inl ⟨t', hs', hbusy⟩
  | declines kind mission => cases hs'
  -- A session that has just been opened is still receiving.
  | opens fresh free kind =>
      cases hs'
      exact absurd (free.symm.trans hbusy) nofun
  | answers reports busy kinds =>
      cases hs'
      exact .inl ⟨_, rfl, busy ▸ hbusy⟩
  | starts reports busy kind arrived => exact .inr (List.mem_singleton_self _)
  | drives sent busy busy' => exact .inl ⟨_, rfl, busy⟩
  | reports busy busy' sends abandoned => exact .inl ⟨_, rfl, busy⟩
  | closes known abandoned reason confirmed => cases hs'

/-- An agent that shows that it has the mission is busy, or the mission has just
    started. -/
theorem of_shown (h : Turn m cause s s' messages events)
    (hserves : ∀ t, s = some t → t.Serves m frags agent) {x : Message} (hx : x ∈ messages)
    (hshown : x.kind.isReport = true ∨ x.kind = .ack ∧ Supervisor.missingIn x = []) :
    (∃ t, s = some t ∧ t.isBusy = true) ∨ .missionStarted m ∈ events := by
  -- A response shows nothing.
  have hresponse : x.kind ≠ .response := by
    intro hkind
    rw [hkind] at hshown
    rcases hshown with hshown | hshown
    · cases hshown
    · cases hshown.1
  cases h with
  | rests => cases hx
  | declines kind mission => exact absurd (List.mem_singleton.1 hx ▸ kind) hresponse
  | opens fresh free kind => exact absurd (List.mem_singleton.1 hx ▸ kind) hresponse
  | answers reports busy kinds =>
      rcases kinds x hx with hkind | ⟨hkind, hbusy⟩
      · exact absurd hkind hresponse
      · rw [hkind] at hshown
        rcases hshown with hshown | hshown
        · cases hshown
        · exact .inl ⟨_, rfl, hbusy hshown.2⟩
  | starts reports busy kind arrived => exact .inr (List.mem_singleton_self _)
  | drives sent busy busy' => cases hx
  | reports busy busy' sends abandoned => exact .inl ⟨_, rfl, busy⟩
  | @closes t _ _ known abandoned reason confirmed =>
      -- A session that has sent anything has started.
      refine .inl ⟨t, rfl, ?_⟩
      by_contra hfree
      have hfresh := (hserves t rfl).fresh (eq_false_of_ne_true hfree)
      have hmem := known x hx
      rw [hfresh.sent] at hmem
      cases hmem

/-- A session closes as confirmed only when the terminal report that is in
    flight is acknowledged. -/
theorem of_confirmed (h : Turn m cause s s' messages events) {mission : Int}
    (he : .sessionClosed mission .confirmed ∈ events) :
    ∃ t y f, s = some t ∧ cause = some y ∧ y.kind = .ack ∧ t.reports.inFlight = some f ∧
      f.seq = y.seq ∧ f.terminal = true := by
  cases h with
  | rests => cases he
  | declines kind mission => cases List.mem_singleton.1 he
  | opens fresh free kind => cases he
  | answers reports busy kinds => cases he
  | starts reports busy kind arrived => cases List.mem_singleton.1 he
  | drives sent busy busy' => cases he
  -- Only a session that closes can close as confirmed.
  | reports busy busy' sends abandoned =>
      exact absurd he (not_mem_of_abandoned abandoned (fun _ => nofun))
  | @closes t _ _ known abandoned reason confirmed =>
      rcases List.mem_append.1 he with he | he
      · exact absurd he (not_mem_of_abandoned abandoned (fun _ => nofun))
      · cases List.mem_singleton.1 he
        rcases confirmed rfl with ⟨y, f, hy, hkind, hf, hseq, hterminal⟩
        exact ⟨t, y, f, rfl, hy, hkind, hf, hseq, hterminal⟩

end Turn

/-- An agent whose session, if it has one, is for the mission. -/
def Serves (m : Mission) (frags : List (List Field)) (a : Agent) : Prop :=
  ∀ t, a.session = some t → t.Serves m frags a.id

/-- What a reaction of an agent comes to: one turn, after which it still serves
    the mission. -/
structure Follows (m : Mission) (frags : List (List Field)) (cause : Option Message) (a : Agent)
    (r : AgentReaction) : Prop where
  id : r.state.id = a.id
  serves : r.state.Serves m frags
  turn : Turn m cause a.session r.state.session r.messages r.events

section Steps

variable {m : Mission} {frags : List (List Field)} {cause : Option Message} {a : Agent}
  {t : AgentSession}

theorem Serves.session (h : a.Serves m frags) (hs : a.session = some t) :
    t.Serves m frags a.id := h t hs

theorem Follows.quiet (h : a.Serves m frags) : a.Follows m frags cause (.quiet a) :=
  ⟨rfl, h, .rests⟩

/-- One turn within a session. -/
theorem Follows.within (hs : a.session = some t) {t' : AgentSession} {messages : List Message}
    {events : List AgentEvent} (ht' : t'.Serves m frags a.id)
    (hturn : Turn m cause (some t) (some t') messages events) :
    a.Follows m frags cause { state := a.within t', messages, events } where
  id := rfl
  serves := by
    rintro u hu
    cases hu
    exact ht'
  turn := hs ▸ hturn

/-- The session closes. -/
theorem Follows.close (hs : a.session = some t) {messages : List Message}
    {events : List AgentEvent} (hknown : ∀ x ∈ messages, x ∈ t.reports.sent)
    (habandoned : ∀ e ∈ events, ∃ seq, e = .reportAbandoned seq) (reason : CloseReason)
    (hconfirmed : reason = .confirmed → ∃ y f, cause = some y ∧ y.kind = .ack ∧
      t.reports.inFlight = some f ∧ f.seq = y.seq ∧ f.terminal = true)
    (now : Nat) {t' : AgentSession} (ht' : t'.mission = t.mission) :
    a.Follows m frags cause { a.close t' reason now with
      messages, events := events ++ (a.close t' reason now).events } where
  id := rfl
  serves := by
    rintro u hu
    cases hu
  turn := by
    rw [hs]
    simp only [Agent.close, ht']
    exact .closes hknown habandoned reason hconfirmed

/-- A hello reaches an agent without a session. -/
theorem follows_welcome (hs : a.session = none) {x : Message} (hx : x.mission = m.id) (now : Nat) :
    a.Follows m frags cause (a.welcome x now) := by
  rw [welcome]
  split
  · -- The rover cannot take the mission, and there is still no session.
    refine ⟨rfl, ?_, ?_⟩
    · rintro u hu
      cases hu
    · rw [hs]
      exact .declines rfl _
  · refine ⟨rfl, ?_, ?_⟩
    · rintro u hu
      cases hu
      exact {
        mission := hx, response := rfl, sender := rfl, about := hx
        orderly := .start ..
        stage := ⟨.start now, .start ..⟩ }
    · rw [hs]
      exact .opens (.start ..) rfl rfl

theorem follows_onHello (h : a.Serves m frags) {x : Message} (hx : x.mission = m.id) (now : Nat) :
    a.Follows m frags cause (a.onHello x now) := by
  cases hs : a.session with
  | none =>
      simp only [onHello, hs]
      exact follows_welcome hs hx now
  | some t =>
      have ht := h.session hs
      simp only [onHello, hs, ht.mission, hx, if_true]
      -- The first response is given again, whatever the stage.
      have hresponse : ∀ y ∈ [t.response], y.kind = .response ∨
          y.kind = .ack ∧ (Supervisor.missingIn y = [] → t.isBusy = true) := by
        intro y hy
        cases List.mem_singleton.1 hy
        exact .inl ht.response
      have hstage := ht.stage
      rw [AgentSession.heard]
      cases hr : t.stage with
      | receiving r =>
          rw [hr] at hstage
          refine .within hs ?_ (.answers rfl ?_ hresponse)
          · exact { ht with stage := ⟨hstage.1.congr rfl rfl, hstage.2⟩ }
          · simp only [AgentSession.isBusy, hr, Stage.isBusy]
      | executing e => exact .within hs ht (.answers rfl rfl hresponse)
      | reporting => exact .within hs ht (.answers rfl rfl hresponse)

/-- The mission that has arrived starts. -/
theorem follows_execute (h : a.Serves m frags) (hs : a.session = some t)
    (hfree : t.isBusy = false) (hcause : ∃ y, cause = some y ∧ y.kind = .mission)
    {t' : AgentSession} (ht' : t'.reports = t.reports) (hmission : t'.mission = t.mission)
    (hresponse : t'.response = t.response) (seq : Int) (now : Nat) :
    a.Follows m frags cause (a.execute t' seq m now) where
  id := rfl
  serves := by
    have ht := h.session hs
    rintro u hu
    cases hu
    exact {
      mission := hmission.trans ht.mission
      response := by rw [hresponse]; exact ht.response
      sender := by rw [ht']; exact ht.sender
      about := by rw [ht']; exact ht.about
      orderly := by rw [ht']; exact ht.orderly
      stage := by
        -- Nothing has been reported yet, so nothing that ends the mission has.
        change t'.reports.Open
        rw [ht']
        exact (ht.fresh hfree).isOpen }
  turn := hs ▸ .starts ht' rfl rfl hcause

/-- A fragment of the mission reaches a session that is receiving it. -/
theorem follows_onFragment (h : a.Serves m frags) (hs : a.session = some t)
    (hfree : t.isBusy = false) (hcause : ∃ y, cause = some y ∧ y.kind = .mission) (hm : m.Fits)
    (hcut : CutInto m.toFields frags.flatten) {r : Reception} (hr : r.Collecting frags)
    {x : Message} {i : Fin frags.length} (hseq : x.seq = firstTransferSeq + (i : Nat))
    (htotal : x.total = frags.length) (now : Nat) :
    a.Follows m frags cause (a.onFragment t r x (frags.get i) now) := by
  have ht := h.session hs
  have htakes := hr.take hm hcut a.timing i now
  rw [← hseq, ← htotal] at htakes
  -- While the transfer goes on, only the stage and the total change.
  have hserves : ∀ r' : Reception, r'.Collecting frags →
      { t with total := r'.total, stage := .receiving r' }.Serves m frags a.id :=
    fun r' hr' => { ht with stage := ⟨hr', ht.fresh hfree⟩ }
  rw [onFragment]
  cases htake : r.take a.timing x.seq x.total (frags.get i) now with
  | mk r' verdict =>
      rw [htake] at htakes
      cases htakes with
      | complete => refine follows_execute h hs hfree hcause ?_ ?_ ?_ _ now <;> rfl
      | silent hcollecting =>
          exact .within hs (hserves r' hcollecting)
            (.answers rfl hfree.symm (fun _ hx => absurd hx List.not_mem_nil))
      | ask hcollecting hne =>
          refine .within hs (hserves r' hcollecting) (.answers rfl hfree.symm ?_)
          intro y hy
          cases List.mem_singleton.1 hy
          exact .inr ⟨rfl, fun hnil => absurd hnil hne⟩

/-- A message of the transfer reaches a session that is receiving it. -/
theorem follows_onTransfer (h : a.Serves m frags) (hs : a.session = some t)
    (hfree : t.isBusy = false) (hcause : ∃ y, cause = some y ∧ y.kind = .mission) (hm : m.Fits)
    (hcut : frags ≠ [] → CutInto m.toFields frags.flatten) {r : Reception}
    (hr : r.Collecting frags) {x : Message} (hx : m.Brings frags x) (now : Nat) :
    a.Follows m frags cause (a.onTransfer t r x now) := by
  rcases hx with hpayload | ⟨i, hseq, htotal, hpayload⟩
  · -- The mission came in one piece.
    simp only [onTransfer, hpayload]
    exact follows_execute h hs hfree hcause rfl rfl rfl _ now
  · have hcut' := hcut (List.ne_nil_of_length_pos (Nat.zero_lt_of_lt i.isLt))
    simp only [onTransfer, hpayload, Mission.decodeFields_fragment hm hcut' i]
    refine follows_onFragment h hs hfree hcause hm hcut' ?_ hseq htotal now
    exact hr.congr rfl rfl

theorem follows_onMission (h : a.Serves m frags) (hm : m.Fits)
    (hcut : frags ≠ [] → CutInto m.toFields frags.flatten) {x : Message} (habout : x.mission = m.id)
    (hkind : x.kind = .mission) (hx : m.Brings frags x) (now : Nat) :
    a.Follows m frags (some x) (a.onMission x now) := by
  cases hs : a.session with
  | none =>
      simp only [onMission, hs]
      exact .quiet h
  | some t =>
      have ht := h.session hs
      have hstage := ht.stage
      simp only [onMission, hs, ht.mission, habout, ne_eq, not_true_eq_false, if_false]
      -- A rover that has the mission says so again.
      have hagain : t.isBusy = true →
          a.Follows m frags (some x) { state := a, messages := [t.missionAck a.id x.seq []] } := by
        intro hbusy
        refine ⟨rfl, h, hs ▸ .answers rfl rfl ?_⟩
        intro y hy
        cases List.mem_singleton.1 hy
        exact .inr ⟨rfl, fun _ => hbusy⟩
      cases hr : t.stage with
      | receiving r =>
          rw [hr] at hstage
          refine follows_onTransfer h hs ?_ ⟨x, rfl, hkind⟩ hm hcut hstage.1 hx now
          exact AgentSession.isBusy_eq hr
      | executing e =>
          exact hagain (AgentSession.isBusy_eq hr)
      | reporting =>
          exact hagain (AgentSession.isBusy_eq hr)

theorem follows_onAck (h : a.Serves m frags) {x : Message} (habout : x.mission = m.id)
    (hkind : x.kind = .ack) (now : Nat) : a.Follows m frags (some x) (a.onAck x now) := by
  cases hs : a.session with
  | none =>
      simp only [onAck, hs]
      exact .quiet h
  | some t =>
      have ht := h.session hs
      simp only [onAck, hs, ht.mission, habout, ne_eq, not_true_eq_false, if_false]
      cases hc : t.reports.confirm? x.seq (ackIn x) with
      | none => exact .quiet h
      | some c =>
          have hbusy := AgentSession.isBusy_of_confirm ht.fresh hc
          have hsends := ReportQueue.sends_confirm ht.orderly hc
          rcases ReportQueue.confirm?_eq_some hc with
            ⟨f, hflight, hseq, hqueue, -, hterminal, hreplay⟩
          have hsent : c.queue.sent = t.reports.sent := by rw [hqueue]
          simp only [onConfirmed]
          split
          · rename_i hend
            exact .close hs hreplay (fun _ he => absurd he List.not_mem_nil) .confirmed
              (fun _ => ⟨x, f, rfl, hkind, hflight, hseq, hterminal ▸ hend⟩) now rfl
          · -- The next report goes out together with those that are sent again.
            have hnext := hsends.after hsent (ReportQueue.sends_poll hsends.orderly now)
            exact .within hs (ht.sends hbusy hnext)
              (.reports hbusy hbusy hnext (fun _ he => absurd he List.not_mem_nil))

/-- What a message about the mission leads to. -/
theorem follows_receive (h : a.Serves m frags) (hm : m.Fits)
    (hcut : frags ≠ [] → CutInto m.toFields frags.flatten) {x : Message} (hx : m.Directs frags x)
    (now : Nat) : a.Follows m frags (some x) (a.receive x now) := by
  rw [receive]
  split
  · cases hx with
    | hello about kind =>
        simp only [kind]
        exact follows_onHello h about now
    -- What a message brings is a fragment of the mission, whichever arrives.
    | transfer about kind brings =>
        simp only [kind]
        exact follows_onMission h hm hcut about kind brings now
    | ack about kind =>
        simp only [kind]
        exact follows_onAck h about kind now
  · exact .quiet h

theorem follows_pollTransfer (h : a.Serves m frags) (now : Nat) :
    a.Follows m frags none (a.pollTransfer now) := by
  cases hs : a.session with
  | none =>
      simp only [pollTransfer, hs]
      exact .quiet h
  | some t =>
      have ht := h.session hs
      have hstage := ht.stage
      cases hr : t.stage with
      | receiving r =>
          rw [hr] at hstage
          have hfree : t.isBusy = false := AgentSession.isBusy_eq hr
          rcases hstage.1.nudge now with ⟨hcollecting, hask⟩
          simp only [pollTransfer, hs, hr]
          split
          · exact .quiet h
          · -- The transfer has been silent: too often, or it is asked for what is missing.
            split
            · exact .close hs (fun _ hx => absurd hx List.not_mem_nil)
                (fun _ he => absurd he List.not_mem_nil) .transferAbandoned nofun now rfl
            · refine .within hs { ht with stage := ⟨hcollecting, hstage.2⟩ }
                (.answers rfl hfree.symm ?_)
              intro y hy
              rcases List.mem_map.1 hy with ⟨q, hq, rfl⟩
              exact .inr ⟨rfl, fun hnil => absurd hnil (hask q (Option.mem_toList.1 hq))⟩
      | executing e =>
          simp only [pollTransfer, hs, hr]
          exact .quiet h
      | reporting =>
          simp only [pollTransfer, hs, hr]
          exact .quiet h

theorem follows_pollExecution (h : a.Serves m frags) (now : Nat) :
    a.Follows m frags none { state := a.pollExecution now } := by
  cases hs : a.session with
  | none =>
      simp only [pollExecution, hs]
      exact .quiet h
  | some t =>
      have ht := h.session hs
      have hstage := ht.stage
      cases hr : t.stage with
      | receiving r =>
          simp only [pollExecution, hs, hr]
          exact .quiet h
      | executing e =>
          rw [hr] at hstage
          simp only [pollExecution, hs, hr]
          -- The ticks that are due work on the reports of the session.
          have hticks := Drive.ticks_sound (d := ⟨e, a.rover, t.reports, false⟩)
            ⟨ht.orderly, fun _ => hstage, nofun⟩ (now / 1000 : Nat) (e.due a.rover now)
          generalize Drive.ticks _ _ _ = d at hticks ⊢
          rcases hticks with ⟨hsound, hsame⟩
          refine ⟨rfl, ?_, ?_⟩
          · rintro u hu
            cases hu
            exact {
              mission := ht.mission
              response := ht.response
              sender := hsame.agent.trans ht.sender
              about := hsame.mission.trans ht.about
              orderly := hsound.orderly
              stage := by
                cases hended : d.ended with
                | true => exact hsound.closing hended
                | false => exact hsound.going hended }
          · rw [hs]
            refine .drives hsame.sent ?_ ?_
            · exact AgentSession.isBusy_eq hr
            · cases d.ended <;> rfl
      | reporting =>
          simp only [pollExecution, hs, hr]
          exact .quiet h

theorem follows_pollReports (h : a.Serves m frags) (now : Nat) :
    a.Follows m frags none (a.pollReports now) := by
  cases hs : a.session with
  | none =>
      simp only [pollReports, hs]
      exact .quiet h
  | some t =>
      have ht := h.session hs
      simp only [pollReports, hs]
      by_cases hbusy : t.isBusy = true
      · have hsends := ReportQueue.sends_poll ht.orderly now
        cases hgiven : (t.reports.poll now).abandoned with
        | none =>
            exact .within hs (ht.sends hbusy hsends)
              (.reports hbusy hbusy hsends (fun _ he => absurd he List.not_mem_nil))
        | some given =>
            have habandoned : ∀ e ∈ [AgentEvent.reportAbandoned given.seq],
                ∃ seq, e = .reportAbandoned seq :=
              fun e he => ⟨given.seq, List.mem_singleton.1 he⟩
            -- A session without hope of confirmation closes.
            by_cases hterminal : given.terminal = true
            · have hnone := ReportQueue.messages_of_abandoned hgiven hterminal
              simp only [hterminal, if_true, hnone]
              exact .close hs (fun _ hx => absurd hx List.not_mem_nil) habandoned .unconfirmed nofun
                now rfl
            · simp only [hterminal]
              exact .within hs (ht.sends hbusy hsends) (.reports hbusy hbusy hsends habandoned)
      · -- Before the mission starts there is nothing to report.
        have hpoll := (ht.fresh (eq_false_of_ne_true hbusy)).poll now
        simp only [hpoll]
        exact .within hs ht (.answers rfl rfl (fun _ hx => absurd hx List.not_mem_nil))

/-- Recovery changes the rover only. -/
theorem recover_eq (a : Agent) (now : Nat) :
    (a.recover now).session = a.session ∧ (a.recover now).id = a.id := by
  rw [recover]
  split
  · exact ⟨rfl, rfl⟩
  · split <;> exact ⟨rfl, rfl⟩

end Steps

end Agent

end RoverDispatch
