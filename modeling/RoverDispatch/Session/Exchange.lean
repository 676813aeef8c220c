import RoverDispatch.Session.Agent
import RoverDispatch.Session.Supervisor
import RoverDispatch.Wire.Datagram

/-!
# Exchanges

A supervisor and an agent talking over a medium that loses messages.

Messages take no time. At every instant the messages under way are delivered
back and forth until none is left; then the clock moves on and both ends are
polled. What is lost is decided per message by a medium, which can remember
what it has seen. The usual one decides by the place of a message in the order
of delivery or by rules about what kinds of message are lost how often, and what
it delivers has been through the wire format.

## Main definitions

* `Lossy`: A medium that loses messages.
* `LossRule`, `Medium`: What is lost.
* `Exchange`: Both ends and the messages under way.
* `Exchange.round`, `Exchange.settle`: Delivering messages at one instant.
* `Exchange.run`: Instant after instant.
* `Agent.pollEvery`: An agent on its own, polled at regular intervals.
-/

namespace RoverDispatch

/-- The receiving end of a delivery. -/
inductive Side where
  | agent
  | coordinator
  deriving DecidableEq, Inhabited

/-- A medium that loses messages. What it does not lose arrives, if at all, as it
    was sent or as it is read from its bytes. -/
class Lossy (μ : Type) where
  /-- Whether the next message is lost, and the medium afterwards. -/
  loses : μ → Side → Message → Bool × μ
  /-- What arrives of a message that is not lost. -/
  arrives : Message → Option Message
  faithful : ∀ {m x}, arrives m = some x → x = m ∨ Message.decode m.encode = .ok x

/-- A number of messages of a kind are lost, perhaps only those with a certain
    number or for a certain end. -/
structure LossRule where
  kind : Kind
  left : Nat
  seq : Option Int
  side : Option Side
  deriving DecidableEq, Inhabited

/-- Whether a rule takes a message. -/
def LossRule.takes (r : LossRule) (side : Side) (m : Message) : Bool :=
  0 < r.left && r.kind == m.kind && r.seq.all (· == m.seq) && r.side.all (· == side)

/-- What is lost: the places of single messages in the order of delivery, and
    rules. The place of the next message is kept. -/
structure Medium where
  next : Nat
  lost : List Nat
  rules : List LossRule
  deriving DecidableEq, Inhabited

/-- The rules after the first one that takes a message has been used, if there
    is one. -/
def useRule (side : Side) (m : Message) : List LossRule → Option (List LossRule)
  | [] => none
  | r :: rest =>
    -- Only the first rule that takes a message is used up by it.
    if r.takes side m then some ({ r with left := r.left - 1 } :: rest)
    else (useRule side m rest).map (r :: ·)

/-- Whether the next message is lost, and the medium afterwards. -/
def Medium.loses (w : Medium) (side : Side) (m : Message) : Bool × Medium :=
  let rules := useRule side m w.rules
  (rules.isSome || w.lost.contains w.next,
    { w with next := w.next + 1, rules := rules.getD w.rules })

instance : Lossy Medium where
  loses := Medium.loses
  arrives := fun m => (Message.decode m.encode).toOption
  faithful := by
    intro m x h
    cases hd : Message.decode m.encode with
    | error e =>
        rw [hd] at h
        cases h
    | ok y =>
        rw [hd] at h
        cases h
        exact .inr rfl

/-- A message on its way: when, to which end, and whether it was lost. -/
structure Delivery where
  now : Nat
  side : Side
  message : Message
  lost : Bool
  deriving DecidableEq, Inhabited

/-- The events of one instant. -/
structure Instant where
  now : Nat
  supervisor : List SessionEvent
  agent : List AgentEvent
  deriving DecidableEq, Inhabited

/-- Both ends, the messages under way to each, the events not yet recorded,
    and what is on record, the latest first. -/
structure Exchange (μ : Type) where
  supervisor : Supervisor
  agent : Agent
  medium : μ
  toAgent : List Message
  toCoordinator : List Message
  supervisorEvents : List SessionEvent
  agentEvents : List AgentEvent
  deliveries : List Delivery
  instants : List Instant
  deriving DecidableEq, Inhabited

namespace Exchange

variable {μ : Type} [Lossy μ]

/-- A supervisor that has just greeted an agent. -/
def start (supervisor : Supervisor) (agent : Agent) (medium : μ) : Exchange μ :=
  let r := supervisor.greet 0
  { supervisor := r.state, agent, medium, toAgent := r.messages, toCoordinator := []
    supervisorEvents := r.events, agentEvents := [], deliveries := [], instants := [] }

/-- A message goes through the medium: what arrives, if anything does. -/
def carry (x : Exchange μ) (side : Side) (now : Nat) (m : Message) : Option Message × Exchange μ :=
  let (lost, medium) := Lossy.loses x.medium side m
  let x := { x with medium, deliveries := ⟨now, side, m, lost⟩ :: x.deliveries }
  (if lost then none else Lossy.arrives μ m, x)

/-- The agent makes something of an input. -/
def agentReacts (x : Exchange μ) (r : AgentReaction) : Exchange μ :=
  { x with
    agent := r.state
    toCoordinator := x.toCoordinator ++ r.messages
    agentEvents := x.agentEvents ++ r.events }

/-- The supervisor makes something of an input. -/
def supervisorReacts (x : Exchange μ) (r : SupervisorReaction) : Exchange μ :=
  { x with
    supervisor := r.state
    toAgent := x.toAgent ++ r.messages
    supervisorEvents := x.supervisorEvents ++ r.events }

/-- A message for the agent. -/
def deliverToAgent (now : Nat) (x : Exchange μ) (m : Message) : Exchange μ :=
  match x.carry .agent now m with
  | (none, x) => x
  | (some m, x) => x.agentReacts (x.agent.receive m now)

/-- A message for the supervisor. -/
def deliverToSupervisor (now : Nat) (x : Exchange μ) (m : Message) : Exchange μ :=
  match x.carry .coordinator now m with
  | (none, x) => x
  | (some m, x) => x.supervisorReacts (x.supervisor.receive m now)

/-- No message is under way. -/
def isQuiet (x : Exchange μ) : Bool := x.toAgent.isEmpty && x.toCoordinator.isEmpty

/-- Deliver what is under way to the agent, and then what is under way to the
    supervisor, the agent's answers included. -/
def round (x : Exchange μ) (now : Nat) : Exchange μ :=
  -- What the supervisor says in this round waits for the next one.
  let x := x.toAgent.foldl (deliverToAgent now) { x with toAgent := [] }
  x.toCoordinator.foldl (deliverToSupervisor now) { x with toCoordinator := [] }

/-- Rounds until no message is under way, at most so many. -/
def settle (x : Exchange μ) (now : Nat) : Nat → Exchange μ
  | 0 => x
  | n + 1 => if x.isQuiet then x else (x.round now).settle now n

/-- More rounds than messages can be answered in at one instant: every round
    but a few brings the agent a message of the transfer or a report that it
    did not have. -/
def roundLimit (x : Exchange μ) : Nat :=
  1000 + 10 * x.supervisor.transfer.length

/-- The events since the last instant, put on record if there are any. -/
def record (x : Exchange μ) (now : Nat) : Exchange μ :=
  if x.supervisorEvents.isEmpty && x.agentEvents.isEmpty then x
  else
    { x with
      supervisorEvents := [], agentEvents := []
      instants := ⟨now, x.supervisorEvents, x.agentEvents⟩ :: x.instants }

/-- Both ends have come to rest. -/
def isOver (x : Exchange μ) : Bool := x.supervisor.isFinished && x.agent.session.isNone

/-- What happens at an instant once both ends have been polled. -/
def instant (x : Exchange μ) (now : Nat) : Exchange μ :=
  let x := x.settle now x.roundLimit
  { x with supervisor := x.supervisor.transmitted now }.record now

/-- Faults strike the rover, and both ends are polled. -/
def wake (x : Exchange μ) (now : Nat) (faults : List Fault) : Exchange μ :=
  let x := { x with agent := faults.foldl Agent.inject x.agent }
  -- The supervisor is polled before the agent.
  let x := x.supervisorReacts (x.supervisor.poll now)
  x.agentReacts (x.agent.poll now)

/-- Instant after instant, at most so many, from `now` in equal steps until
    the end or until both ends have come to rest; the time reached and the
    exchange. -/
def runFrom (step last : Nat) (faults : List (Nat × Fault)) :
    Nat → Nat → Exchange μ → Nat × Exchange μ
  | 0, now, x => (now, x)
  | n + 1, now, x =>
    let x := x.instant now
    let next := now + step
    if x.isOver then (now, x)
    else if last < next then (next, x)
    else
      let striking := (faults.filter (fun f => f.1 = next)).map Prod.snd
      runFrom step last faults n next (x.wake next striking)

/-- Instant after instant from the start. -/
def run (x : Exchange μ) (step last : Nat) (faults : List (Nat × Fault)) : Nat × Exchange μ :=
  runFrom step last faults (last / step + 1) 0 x

end Exchange

namespace Agent

/-- An agent polled `n` times from a point in time in equal steps: the polls
    that led to something, in order, and the agent. -/
def pollTimes (step : Nat) : Nat → Nat → Agent → List (Nat × AgentReaction) × Agent
  | 0, _, a => ([], a)
  | n + 1, now, a =>
    let r := a.poll now
    let (rest, a) := pollTimes step n (now + step) r.state
    (if r.messages.isEmpty && r.events.isEmpty then rest else (now, r) :: rest, a)

/-- An agent polled in equal steps from a first to a last point in time. -/
def pollEvery (a : Agent) (first last step : Nat) : List (Nat × AgentReaction) × Agent :=
  pollTimes step (if last < first then 0 else (last - first) / step + 1) first a

end Agent

end RoverDispatch
