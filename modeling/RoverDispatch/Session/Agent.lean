import RoverDispatch.Session.Execution
import RoverDispatch.Session.Reaction
import RoverDispatch.Session.Reception

/-!
# Agents

The rover's end of a session.

An agent keeps its rover for good and at most one session at a time. A hello
opens a session, and until the mission has arrived another hello can take its
place. From then on the rover is busy: the mission is carried out and reported
on, and every hello about another mission is declined. The session closes when
the terminal report is confirmed or given up, or when nothing comes of the
transfer. A rover that failed recovers some time after its session has closed.

What the coordinator sends again is answered again. A hello of the session
gets the same response, and a message of a mission that has arrived is
acknowledged as complete.

The end of the silence of a coordinator and the time of recovery are counted as
`after` counts them, and the next tick as in `Execution`.

## Main definitions

* `Stage`: Receiving, executing or reporting, with what belongs to each.
* `AgentSession`: One mission from the hello to the end.
* `AgentEvent`: What an agent tells its surroundings.
* `Agent`: The machine.
* `Agent.receive`, `Agent.poll`: Its inputs.
* `Agent.deadline?`: When polling next makes a difference.
-/

namespace RoverDispatch

/-- How far a session has come. -/
inductive Stage where
  | receiving (r : Reception)
  | executing (e : Execution)
  /-- The mission is over and its last report is not confirmed yet. -/
  | reporting
  deriving DecidableEq, Inhabited

/-- The rover has the mission, so it takes no other. -/
def Stage.isBusy : Stage → Bool
  | receiving _ => false
  | executing _ => true
  | reporting => true

/-- One mission from the hello to the end. -/
structure AgentSession where
  mission : Int
  coordinator : Int
  /-- The answer to the hello, and to every repetition of it. -/
  response : Message
  /-- The number of messages in the transfer, as far as it is known. -/
  total : Int
  stage : Stage
  reports : ReportQueue
  deriving DecidableEq, Inhabited

/-- What an agent is doing, as others see it. -/
inductive AgentPhase where
  | idle
  | respondedAvailable
  | receivingFragments
  | executing
  | reportingTerminal
  deriving DecidableEq, Inhabited

namespace AgentSession

/-- What the agent is doing in this session. -/
def phase (s : AgentSession) : AgentPhase :=
  match s.stage with
  | .receiving r => if r.window.isNone then .respondedAvailable else .receivingFragments
  | .executing _ => .executing
  | .reporting => .reportingTerminal

/-- The rover has the mission, so it takes no other. -/
def isBusy (s : AgentSession) : Bool := s.stage.isBusy

/-- The coordinator has been heard of. -/
def heard (s : AgentSession) (now : Nat) : AgentSession :=
  match s.stage with
  | .receiving r => { s with stage := .receiving { r with lastInbound := now } }
  | _ => s

/-- The acknowledgement of a message of the transfer. -/
def missionAck (s : AgentSession) (agent seq : Int) (missing : List Int) : Message :=
  { kind := .ack, sender := agent, receiver := s.coordinator, mission := s.mission, seq,
    total := s.total, success := missing.isEmpty, payload := .ack ⟨missing, false⟩ }

/-- When polling the session next makes a difference. -/
def deadline? (s : AgentSession) (t : Timing) (rover : Rover) : Option Nat :=
  match s.stage with
  | .receiving r => some (after r.lastInbound t.timeout)
  | .executing e => earliest (some (e.lastTick + rover.simulation.tick)) s.reports.deadline?
  | .reporting => s.reports.deadline?

end AgentSession

/-- Why a session closed. -/
inductive CloseReason where
  /-- The terminal report was confirmed. -/
  | confirmed
  /-- The terminal report was given up. -/
  | unconfirmed
  /-- Nothing came of the transfer. -/
  | transferAbandoned
  /-- A hello about another mission took its place. -/
  | superseded
  deriving DecidableEq, Inhabited

/-- What an agent tells its surroundings. -/
inductive AgentEvent where
  | helloDeclined (mission : Int)
  | missionStarted (m : Mission)
  | reportAbandoned (seq : Int)
  | sessionClosed (mission : Int) (reason : CloseReason)
  deriving DecidableEq, Inhabited

/-- A rover with the session it may be in, and the time at which it recovers
    from a fault. -/
structure Agent where
  id : Int
  timing : Timing
  rover : Rover
  session : Option AgentSession
  recoverAt : Option Nat
  deriving DecidableEq, Inhabited

/-- What an agent makes of an input. -/
abbrev AgentReaction := Reaction Agent AgentEvent

namespace Agent

/-- An agent without a session. -/
def start (id : Int) (timing : Timing) (rover : Rover) : Agent :=
  { id, timing, rover, session := none, recoverAt := none }

/-- What the agent is doing. -/
def phase (a : Agent) : AgentPhase :=
  match a.session with
  | none => .idle
  | some s => s.phase

/-- The rover has a mission, so it takes no other. -/
def isBusy (a : Agent) : Bool := a.session.any AgentSession.isBusy

/-- When polling next makes a difference. -/
def deadline? (a : Agent) : Option Nat :=
  earliest (a.session.bind (fun s => s.deadline? a.timing a.rover)) a.recoverAt

/-- The agent in a session. -/
def within (a : Agent) (s : AgentSession) : Agent := { a with session := some s }

/-- The answer to a hello. -/
def response (a : Agent) (hello : Message) (available : Bool) : Message :=
  { kind := .response, sender := a.id, receiver := hello.sender, mission := hello.mission,
    seq := hello.seq, success := available }

/-- The session closes. A rover that failed on its mission recovers after a
    while. -/
def close (a : Agent) (s : AgentSession) (reason : CloseReason) (now : Nat) :
    AgentReaction :=
  -- A fault that comes up while the mission is still received does not count.
  let failed := a.rover.failure?.isSome && s.stage == .reporting
  { state := { a with
      session := none
      recoverAt := if failed then some (after now a.rover.simulation.recovery) else a.recoverAt }
    events := [.sessionClosed s.mission reason] }

/-! ### Messages -/

/-- Decline a hello. -/
def decline (a : Agent) (hello : Message) : AgentReaction :=
  { state := a, messages := [a.response hello false], events := [.helloDeclined hello.mission] }

/-- The session that a hello opens. -/
def openSession (a : Agent) (hello : Message) (now : Nat) : AgentSession :=
  { mission := hello.mission, coordinator := hello.sender, response := a.response hello true
    total := 1, stage := .receiving (.start now)
    reports := .start a.id hello.sender hello.mission a.timing }

/-- Open a session, unless the rover is out of order. -/
def welcome (a : Agent) (hello : Message) (now : Nat) : AgentReaction :=
  if a.rover.failure?.isSome then { a with session := none }.decline hello
  else
    { state := a.within (a.openSession hello now), messages := [a.response hello true] }

/-- A hello arrives. -/
def onHello (a : Agent) (hello : Message) (now : Nat) : AgentReaction :=
  match a.session with
  | none => a.welcome hello now
  | some s =>
    -- The answer was lost, or the hello is a late copy. The same answer is given again.
    if s.mission = hello.mission then
      { state := a.within (s.heard now), messages := [s.response] }
    else if s.isBusy then a.decline hello
    else
      -- What is still being received gives way to the new mission.
      let r := a.welcome hello now
      { r with events := .sessionClosed s.mission .superseded :: r.events }

/-- The mission has arrived and starts. -/
def execute (a : Agent) (s : AgentSession) (seq : Int) (mission : Mission) (now : Nat) :
    AgentReaction :=
  { state := { a with
      rover := a.rover.begin
      session := some { s with stage := .executing (.start mission now) } }
    messages := [s.missionAck a.id seq []]
    events := [.missionStarted mission] }

/-- A fragment of the mission arrives. -/
def onFragment (a : Agent) (s : AgentSession) (r : Reception) (m : Message)
    (fields : List Field) (now : Nat) : AgentReaction :=
  let (r, verdict) := r.take a.timing m.seq m.total fields now
  let s := { s with total := r.total, stage := .receiving r }
  match verdict with
  | .silent => .quiet (a.within s)
  | .ask missing => { state := a.within s, messages := [s.missionAck a.id m.seq missing] }
  | .complete mission => a.execute s m.seq mission now

/-- A message of the mission arrives while it is being received. Bytes that
    are no fields are as good as lost. -/
def onTransfer (a : Agent) (s : AgentSession) (r : Reception) (m : Message) (now : Nat) :
    AgentReaction :=
  let r := { r with lastInbound := now, nudges := 0 }
  match m.payload with
  -- A mission in a single message needs no assembly.
  | .mission mission => a.execute s m.seq mission now
  | .fragment bytes =>
    match decodeFields bytes with
    | .ok fields => a.onFragment s r m fields now
    | .error _ => .quiet (a.within { s with stage := .receiving r })
  | _ => .quiet (a.within { s with stage := .receiving r })

/-- A message of a mission arrives. -/
def onMission (a : Agent) (m : Message) (now : Nat) : AgentReaction :=
  match a.session with
  | none => .quiet a
  | some s =>
    if s.mission ≠ m.mission then .quiet a
    else
      match s.stage with
      | .receiving r => a.onTransfer s r m now
      -- The mission has arrived before, so nothing is missing.
      | _ => { state := a, messages := [s.missionAck a.id m.seq []] }

/-- What an acknowledgement says; without a list, that nothing is missing. -/
def ackIn (m : Message) : Ack :=
  match m.payload with
  | .ack ack => ack
  | _ => .complete

/-- The report in flight is confirmed. A terminal one closes the session;
    after any other the next is sent at once. -/
def onConfirmed (a : Agent) (s : AgentSession) (c : Confirmation) (now : Nat) :
    AgentReaction :=
  let s := { s with reports := c.queue }
  if c.terminal then { a.close s .confirmed now with messages := c.replay }
  else
    -- The place of the report in flight is free.
    let next := c.queue.poll now
    { state := a.within { s with reports := next.queue }
      messages := c.replay ++ next.messages }

/-- An acknowledgement of a report arrives. -/
def onAck (a : Agent) (m : Message) (now : Nat) : AgentReaction :=
  match a.session with
  | none => .quiet a
  | some s =>
    if s.mission ≠ m.mission then .quiet a
    else
      match s.reports.confirm? m.seq (ackIn m) with
      | none => .quiet a
      | some c => a.onConfirmed s c now

/-- A message arrives. One for another receiver changes nothing. -/
def receive (a : Agent) (m : Message) (now : Nat) : AgentReaction :=
  if m.receiver = a.id then
    match m.kind with
    | .hello => a.onHello m now
    | .mission => a.onMission m now
    | .ack => a.onAck m now
    | _ => .quiet a
  else .quiet a

/-! ### Time -/

/-- The rover recovers when its time has come. -/
def recover (a : Agent) (now : Nat) : Agent :=
  match a.recoverAt with
  | none => a
  | some time =>
    if now < time then a else { a with rover := a.rover.clearFault, recoverAt := none }

/-- The coordinator is asked for what is missing when nothing has come for a
    while, and the transfer is given up after some attempts. -/
def pollTransfer (a : Agent) (now : Nat) : AgentReaction :=
  match a.session with
  | none => .quiet a
  | some s =>
    match s.stage with
    | .receiving r =>
      if now < after r.lastInbound a.timing.timeout then .quiet a
      else if a.timing.maxAttempts ≤ r.nudges then a.close s .transferAbandoned now
      else
        -- An attempt is used up even if nobody can be asked yet.
        let (r, request) := r.nudge now
        { state := a.within { s with stage := .receiving r }
          messages := request.toList.map (fun q => s.missionAck a.id q.1 q.2) }
    | _ => .quiet a

/-- The ticks that have passed are carried out. -/
def pollExecution (a : Agent) (now : Nat) : Agent :=
  match a.session with
  | none => a
  | some s =>
    match s.stage with
    | .executing e =>
      let drive : Drive := { execution := e, rover := a.rover, reports := s.reports, ended := false }
      -- All ticks that are due are carried out in the name of this poll.
      let drive := drive.ticks (now / 1000 : Nat) (e.due a.rover now)
      { a with
        rover := drive.rover
        session := some { s with
          stage := if drive.ended then .reporting else .executing drive.execution
          reports := drive.reports } }
    | _ => a

/-- Reports are sent, repeated and given up. -/
def pollReports (a : Agent) (now : Nat) : AgentReaction :=
  match a.session with
  | none => .quiet a
  | some s =>
    let sent := s.reports.poll now
    let s := { s with reports := sent.queue }
    match sent.abandoned with
    | none => { state := a.within s, messages := sent.messages }
    | some given =>
      let r := if given.terminal then a.close s .unconfirmed now else .quiet (a.within s)
      { r with messages := sent.messages, events := .reportAbandoned given.seq :: r.events }

/-- Time has passed: what is due by now is done. -/
def poll (a : Agent) (now : Nat) : AgentReaction :=
  -- A session that closes over its transfer leaves nothing for the rest.
  let transfer := (a.recover now).pollTransfer now
  let reports := (transfer.state.pollExecution now).pollReports now
  { state := reports.state
    messages := transfer.messages ++ reports.messages
    events := transfer.events ++ reports.events }

/-- The rover gets a fault from outside. -/
def inject (a : Agent) (fault : Fault) : Agent := { a with rover := a.rover.inject fault }

/-- The rover's fault is taken away from outside. -/
def clearFault (a : Agent) : Agent := { a with rover := a.rover.clearFault }

end Agent

end RoverDispatch
