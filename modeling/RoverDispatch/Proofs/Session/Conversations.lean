import RoverDispatch.Proofs.Session.Agents
import RoverDispatch.Proofs.Session.Supervisors

/-!
# Conversations

A supervisor and an agent on one mission, with a network between them that can
do anything but invent messages.

A conversation keeps everything that was ever sent to either end. A move picks
any of it and delivers it, at any time and as often as it likes, so messages
may be lost, delayed, reordered and repeated. Between deliveries either end
can be polled, the transfer can be reported as sent, and faults can come and
go.

Nothing that matters depends on when a message arrives, because every message
shows what its sender knew. A report, or an acknowledgement that misses
nothing, was sent by an agent that had started the mission; it still proves it
however late it comes. `Conversation.Sound` collects what the messages under
way prove, and every move keeps it.

## Main definitions

* `Receipt`: What a message to the supervisor led to.
* `Conversation`: Both ends, everything ever sent, and all events.
* `Move`: One step of either end or of the network.
* `Conversation.move`, `Conversation.run`: One move, and a number of them.
* `Conversation.Sound`: What the messages under way prove.

## Theorems

* `Conversation.Sound.agentReacts`: A turn of the agent keeps it.
* `Conversation.Sound.supervisorReacts`: A reaction of the supervisor keeps it.
* `Conversation.poll_induction`: A poll of the agent is a number of turns.
* `Conversation.Sound.run`: It holds after any moves.
* `Conversation.events_justified`: What either end says has happened, has.
-/

namespace RoverDispatch

/-- What a message to the supervisor led to, and whether it came after the end
    of the session. -/
structure Receipt where
  message : Message
  late : Bool
  events : List SessionEvent
  deriving DecidableEq

/-- Both ends of a session, everything that was ever sent to either, all events
    and all receipts, in order. -/
structure Conversation where
  supervisor : Supervisor
  agent : Agent
  toAgent : List Message
  toSupervisor : List Message
  supervisorEvents : List SessionEvent
  agentEvents : List AgentEvent
  receipts : List Receipt
  deriving DecidableEq

/-- One step of either end or of the network. A delivery names the place of a
    message among those that were sent. -/
inductive Move where
  | greet (now : Nat)
  | transmitted (now : Nat)
  | pollSupervisor (now : Nat)
  | pollAgent (now : Nat)
  | inject (fault : Fault)
  | clearFault
  | toAgent (place now : Nat)
  | toSupervisor (place now : Nat)
  deriving DecidableEq

namespace Conversation

/-- Nothing has been said yet. -/
def start (supervisor : Supervisor) (agent : Agent) : Conversation :=
  { supervisor, agent, toAgent := [], toSupervisor := [], supervisorEvents := [],
    agentEvents := [], receipts := [] }

/-- The agent makes something of an input. -/
def agentReacts (c : Conversation) (r : AgentReaction) : Conversation :=
  { c with
    agent := r.state
    toSupervisor := c.toSupervisor ++ r.messages
    agentEvents := c.agentEvents ++ r.events }

/-- The supervisor makes something of an input. -/
def supervisorReacts (c : Conversation) (r : SupervisorReaction) : Conversation :=
  { c with
    supervisor := r.state
    toAgent := c.toAgent ++ r.messages
    supervisorEvents := c.supervisorEvents ++ r.events }

/-- The receipt of a message for the supervisor. -/
def receipt (c : Conversation) (x : Message) (now : Nat) : Receipt :=
  ⟨x, c.supervisor.isTerminal, (c.supervisor.receive x now).events⟩

/-- A message for the supervisor, with its receipt. -/
def deliver (c : Conversation) (x : Message) (now : Nat) : Conversation :=
  { c.supervisorReacts (c.supervisor.receive x now) with
    receipts := c.receipts ++ [c.receipt x now] }

/-- One move. -/
def move (c : Conversation) : Move → Conversation
  | .greet now => c.supervisorReacts (c.supervisor.greet now)
  | .transmitted now => c.supervisorReacts { state := c.supervisor.transmitted now }
  | .pollSupervisor now => c.supervisorReacts (c.supervisor.poll now)
  | .pollAgent now => c.agentReacts (c.agent.poll now)
  | .inject fault => { c with agent := c.agent.inject fault }
  | .clearFault => { c with agent := c.agent.clearFault }
  | .toAgent place now =>
    match c.toAgent[place]? with
    | none => c
    | some x => c.agentReacts (c.agent.receive x now)
  | .toSupervisor place now =>
    match c.toSupervisor[place]? with
    | none => c
    | some x => c.deliver x now

/-- A number of moves. -/
def run (c : Conversation) (moves : List Move) : Conversation := moves.foldl move c

/-- What the messages under way prove, and what both ends have said. -/
structure Sound (m : Mission) (frags : List (List Field)) (rover : Int) (c : Conversation) :
    Prop where
  id : c.agent.id = rover
  serves : c.agent.Serves m frags
  directs : ∀ x ∈ c.toAgent, m.Directs frags x
  rover : c.supervisor.rover = rover
  mission : c.supervisor.mission = m
  transfer : ∀ x ∈ c.supervisor.transfer, x.kind = .mission ∧ m.Directs frags x
  /-- Only this mission starts. -/
  only : ∀ p, .missionStarted p ∈ c.agentEvents → p = m
  /-- It has started when the agent is busy with it, -/
  busy : ∀ t, c.agent.session = some t → t.isBusy = true → .missionStarted m ∈ c.agentEvents
  /-- when the agent has ever shown that it has the mission, -/
  shown : ∀ x ∈ c.toSupervisor,
    x.kind.isReport = true ∨ x.kind = .ack ∧ Supervisor.missingIn x = [] →
      .missionStarted m ∈ c.agentEvents
  /-- and when the supervisor takes it that it has. -/
  accepted : .accepted ∈ c.supervisorEvents → .missionStarted m ∈ c.agentEvents
  /-- What the supervisor says about the mission, the agent has said. -/
  told : ∀ e ∈ c.supervisorEvents, e.IsLocal ∨ ∃ x ∈ c.toSupervisor, x.mission = m.id ∧ e.Tells x
  ended : ∀ o, c.supervisor.outcome? = some o ↔ ∃ e ∈ c.supervisorEvents, e.outcome? = some o

section Invariant

variable {m : Mission} {frags : List (List Field)} {rover : Int} {c : Conversation}

/-- A turn of the agent keeps what is proved. -/
theorem Sound.agentReacts (h : c.Sound m frags rover) {cause : Option Message} {r : AgentReaction}
    (hr : c.agent.Follows m frags cause r) : (c.agentReacts r).Sound m frags rover := by
  -- What has started before or starts now has started.
  have hstarted : (∃ t, c.agent.session = some t ∧ t.isBusy = true) ∨
      .missionStarted m ∈ r.events → .missionStarted m ∈ c.agentEvents ++ r.events := by
    rintro (⟨t, hs, hbusy⟩ | hnow)
    · exact List.mem_append_left _ (h.busy t hs hbusy)
    · exact List.mem_append_right _ hnow
  exact {
    id := hr.id.trans h.id
    serves := hr.serves
    directs := h.directs
    rover := h.rover
    mission := h.mission
    transfer := h.transfer
    only := by
      intro p hp
      rcases List.mem_append.1 hp with hp | hp
      · exact h.only p hp
      · exact (hr.turn.of_started hp).1
    busy := fun t hs hbusy => hstarted (hr.turn.of_busy hs hbusy)
    shown := by
      intro x hx hshown
      rcases List.mem_append.1 hx with hx | hx
      · exact List.mem_append_left _ (h.shown x hx hshown)
      · exact hstarted (hr.turn.of_shown h.serves hx hshown)
    accepted := fun he => List.mem_append_left _ (h.accepted he)
    told := by
      intro e he
      rcases h.told e he with hlocal | ⟨x, hx, hmission, htells⟩
      · exact .inl hlocal
      · exact .inr ⟨x, List.mem_append_left _ hx, hmission, htells⟩
    ended := h.ended }

/-- A reaction of the supervisor keeps what is proved, as long as its events
    come from what the agent has said. -/
theorem Sound.supervisorReacts (h : c.Sound m frags rover) {r : SupervisorReaction}
    (hspeaks : c.supervisor.Speaks r) (houtcome : c.supervisor.Concludes r)
    (haccepted : .accepted ∈ r.events → .missionStarted m ∈ c.agentEvents)
    (htold : ∀ e ∈ r.events,
      e.IsLocal ∨ ∃ x ∈ c.toSupervisor, x.mission = m.id ∧ e.Tells x) :
    (c.supervisorReacts r).Sound m frags rover where
  id := h.id
  serves := h.serves
  directs := by
    intro x hx
    rcases List.mem_append.1 hx with hx | hx
    · exact h.directs x hx
    · -- What is no part of the transfer is a hello or an acknowledgement.
      rcases hspeaks.messages x hx with htransfer | ⟨habout, hkind⟩
      · exact (h.transfer x htransfer).2
      · rw [h.mission] at habout
        rcases hkind with hkind | hkind
        · exact .hello habout hkind
        · exact .ack habout hkind
  rover := hspeaks.rover.trans h.rover
  mission := hspeaks.mission.trans h.mission
  transfer := by
    intro x hx
    exact h.transfer x (hspeaks.transfer ▸ hx)
  only := h.only
  busy := h.busy
  shown := h.shown
  accepted := by
    intro he
    rcases List.mem_append.1 he with he | he
    · exact h.accepted he
    · exact haccepted he
  told := by
    intro e he
    rcases List.mem_append.1 he with he | he
    · exact h.told e he
    · exact htold e he
  ended := by
    intro o
    refine (houtcome o).trans ?_
    rw [h.ended o]
    simp only [Conversation.supervisorReacts, List.mem_append, or_and_right, exists_or]

/-- What happens to the rover alone changes nothing that is proved. -/
theorem Sound.rover_changes (h : c.Sound m frags rover) {a : Agent}
    (hs : a.session = c.agent.session) (hid : a.id = c.agent.id) :
    { c with agent := a }.Sound m frags rover :=
  { h with
    id := hid.trans h.id
    serves := by
      rw [Agent.Serves, hs, hid]
      exact h.serves
    busy := by
      rw [hs]
      exact h.busy }

/-- A message to the supervisor keeps what is proved, if the agent has sent
    it. -/
theorem Sound.deliver (h : c.Sound m frags rover) {x : Message} (hx : x ∈ c.toSupervisor)
    (now : Nat) : (c.deliver x now).Sound m frags rover := by
  have hreceives := c.supervisor.receives x now
  have hreacts := h.supervisorReacts hreceives.speaks hreceives.outcome
    (fun he => h.shown x hx (hreceives.of_accepted he)) (fun e he => ?_)
  · exact { hreacts with }
  · -- A message about another mission has no events.
    by_cases habout : x.mission = m.id
    · rcases hreceives.tells he with hlocal | htells
      · exact .inl hlocal
      · exact .inr ⟨x, hx, habout, htells⟩
    · rw [Supervisor.receive, if_neg (fun hown => habout (h.mission ▸ hown.2))] at he
      cases he

/-- A poll of the agent is three turns of a rover that may have recovered, so it
    keeps what turns and changes of the rover keep. -/
theorem poll_induction {P : Conversation → Prop}
    (serves : ∀ c : Conversation, P c → c.agent.Serves m frags)
    (changes : ∀ (c : Conversation) (a : Agent), P c → a.session = c.agent.session →
      a.id = c.agent.id → P { c with agent := a })
    (turns : ∀ (c : Conversation) (r : AgentReaction), P c → c.agent.Follows m frags none r →
      P (c.agentReacts r))
    (h : P c) (now : Nat) : P (c.agentReacts (c.agent.poll now)) := by
  -- Each turn begins where the one before it has ended.
  have hrecover := changes c _ h (c.agent.recover_eq now).1 (c.agent.recover_eq now).2
  have htransfer := turns _ _ hrecover (Agent.follows_pollTransfer (serves _ hrecover) now)
  have hexecution := turns _ _ htransfer (Agent.follows_pollExecution (serves _ htransfer) now)
  have hreports := turns _ _ hexecution (Agent.follows_pollReports (serves _ hexecution) now)
  simp only [agentReacts, List.append_nil, List.append_assoc] at hreports
  exact hreports

theorem Sound.pollAgent (h : c.Sound m frags rover) (now : Nat) :
    (c.agentReacts (c.agent.poll now)).Sound m frags rover :=
  poll_induction (fun _ h => h.serves) (fun _ _ h hs hid => h.rover_changes hs hid)
    (fun _ _ h hr => h.agentReacts hr) h now

/-- Every move keeps what is proved. -/
theorem Sound.move (h : c.Sound m frags rover) (hm : m.Fits)
    (hcut : frags ≠ [] → CutInto m.toFields frags.flatten) (step : Move) :
    (c.move step).Sound m frags rover := by
  cases step with
  -- What the supervisor does on its own tells nothing that needs a cause.
  | greet now =>
      have hgreets := c.supervisor.greets now
      refine h.supervisorReacts hgreets.speaks hgreets.outcome (fun he => ?_) (fun e he => ?_)
      · rw [hgreets.events] at he
        cases he
      · rw [hgreets.events] at he
        cases he
  | transmitted now =>
      have htransmits := c.supervisor.transmits now
      exact h.supervisorReacts htransmits.speaks htransmits.outcome
        (fun he => absurd he List.not_mem_nil) (fun _ he => absurd he List.not_mem_nil)
  | pollSupervisor now =>
      have hpolls := c.supervisor.polls now
      exact h.supervisorReacts hpolls.speaks hpolls.outcome
        (fun he => absurd rfl (hpolls.local he).2) (fun e he => .inl (hpolls.local he).1)
  | pollAgent now => exact h.pollAgent now
  | inject fault => exact h.rover_changes rfl rfl
  | clearFault => exact h.rover_changes rfl rfl
  | toAgent place now =>
      simp only [Conversation.move]
      split
      · exact h
      · -- What arrives at the agent has been sent to it, and directs it.
        rename_i x hx
        have hdirects := h.directs x (List.mem_of_getElem? hx)
        exact h.agentReacts (Agent.follows_receive h.serves hm hcut hdirects now)
  | toSupervisor place now =>
      simp only [Conversation.move]
      split
      · exact h
      · rename_i x hx
        exact h.deliver (List.mem_of_getElem? hx) now

/-- Nothing has been said, so nothing has to be proved. -/
theorem sound_start {timing agentTiming : Timing} {body : Rover} {s : Supervisor}
    (hs : Supervisor.prepare timing rover m = .ok s) :
    ∃ frags, (frags ≠ [] → CutInto m.toFields frags.flatten) ∧
      (start s (.start rover agentTiming body)).Sound m frags rover := by
  rcases Supervisor.of_prepare hs with ⟨transfer, htransfer, rfl⟩
  rcases Mission.brings_of_mem_transfer htransfer with ⟨frags, hcut, hbrings⟩
  refine ⟨frags, hcut, ?_⟩
  exact {
    id := rfl
    serves := fun t ht => absurd ht nofun
    directs := fun x hx => absurd hx List.not_mem_nil
    rover := rfl
    mission := rfl
    -- Only the transfer is there from the beginning.
    transfer := by
      intro x hx
      rcases hbrings x hx with ⟨hkind, -, habout, hx⟩
      exact ⟨hkind, .transfer habout hkind hx⟩
    only := fun p hp => absurd hp List.not_mem_nil
    busy := fun t ht => absurd ht nofun
    shown := fun x hx => absurd hx List.not_mem_nil
    accepted := fun he => absurd he List.not_mem_nil
    told := fun e he => absurd he List.not_mem_nil
    ended := by
      intro o
      constructor
      · intro ho
        cases ho
      · rintro ⟨e, he, -⟩
        cases he }

/-- What is proved holds after any moves. -/
theorem Sound.run (h : c.Sound m frags rover) (hm : m.Fits)
    (hcut : frags ≠ [] → CutInto m.toFields frags.flatten) (moves : List Move) :
    (c.run moves).Sound m frags rover := by
  induction moves generalizing c with
  | nil => exact h
  | cons step moves ih => exact ih (h.move hm hcut step)

end Invariant

/-- What either end of a session says has happened, has happened, whatever the
    network did. Only the mission that was sent ever starts, field by field as
    it was; when the supervisor takes the mission for accepted, the agent has
    started it; progress that the supervisor tells of, the agent has reported;
    and a session that ends as completed or with an error ends so because the
    agent has reported just that. -/
theorem events_justified {timing agentTiming : Timing} {rover : Int} {body : Rover} {m : Mission}
    {s : Supervisor} (hm : m.Fits) (hs : Supervisor.prepare timing rover m = .ok s)
    (moves : List Move) :
    let c := (start s (.start rover agentTiming body)).run moves
    (∀ p, .missionStarted p ∈ c.agentEvents → p = m) ∧
    (.accepted ∈ c.supervisorEvents → .missionStarted m ∈ c.agentEvents) ∧
    (∀ p, .progress p ∈ c.supervisorEvents →
      ∃ x ∈ c.toSupervisor, x.mission = m.id ∧ x.kind = .progress ∧ x.payload = .progress p) ∧
    (c.supervisor.outcome? = some .completed →
      ∃ x ∈ c.toSupervisor, x.mission = m.id ∧ x.kind = .completed) ∧
    (∀ e, c.supervisor.outcome? = some (.failed (.missionError e)) →
      ∃ x ∈ c.toSupervisor, x.mission = m.id ∧ x.kind = .error ∧ x.payload = .error e) := by
  intro c
  rcases sound_start hs with ⟨frags, hcut, hstart⟩
  have h : c.Sound m frags rover := hstart.run hm hcut moves
  refine ⟨h.only, h.accepted, ?_, ?_, ?_⟩
  -- No event of the three kinds is local, so the agent has said it.
  · intro p hp
    rcases h.told _ hp with hlocal | htold
    · cases hlocal
    · exact htold
  · intro ho
    rcases (h.ended _).1 ho with ⟨e, he, houtcome⟩
    cases e with
    | completed =>
        rcases h.told _ he with hlocal | htold
        · cases hlocal
        · exact htold
    | _ => cases houtcome
  · intro report ho
    rcases (h.ended _).1 ho with ⟨e, he, houtcome⟩
    cases e with
    | failed reason afterProgress =>
        cases houtcome
        rcases h.told _ he with hlocal | htold
        · cases hlocal with
          | failed hreason => cases hreason
        · exact htold
    | _ => cases houtcome

/-- The fragments of a transfer can arrive in the wrong order, and the
    acknowledgement of the last one to arrive is enough. -/
theorem events_justified_reordered :
    let m : Mission := ⟨1, .zero, .zero, .zero, .zero, "scan", 60, 2, 0, 1⟩
    let moves : List Move := [.greet 0, .toAgent 0 1, .toSupervisor 0 2, .toAgent 2 3, .toAgent 1 4,
      .toSupervisor 2 5]
    ∃ s, Supervisor.prepare { fragmentSize := 128 } 7 m = .ok s ∧
      let c := (start s (.start 7 {} (.start {} .zero .zero .hundred none))).run moves
      .accepted ∈ c.supervisorEvents ∧ .missionStarted m ∈ c.agentEvents := by
  intro m moves
  have hrun : ∃ s, Supervisor.prepare { fragmentSize := 128 } 7 m = .ok s ∧
      .accepted ∈ ((start s (.start 7 {} (.start {} .zero .zero .hundred none))).run
        moves).supervisorEvents :=
    Supervisor.exists_prepare_of_check (by decide +kernel)
  rcases hrun with ⟨s, hs, haccepted⟩
  exact ⟨s, hs, haccepted, (events_justified (by decide) hs moves).2.1 haccepted⟩

end Conversation

end RoverDispatch
