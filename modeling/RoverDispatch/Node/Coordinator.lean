import RoverDispatch.Fleet.Outcome
import RoverDispatch.Fleet.Sweep
import RoverDispatch.Network.Link
import RoverDispatch.Node.Settings

/-!
# Coordinators

A coordinator with its fleet and its sessions.

Three things happen on a coordinator besides what its users ask for. Scans
give waiting missions to free rovers and start a session for each. Packets
from rovers are handed to their sessions; a report without a session is
acknowledged all the same, because its rover would go on repeating it. And
sessions act when their time has come. What a session makes of an input is put
on record in the fleet before anything else happens.

A session writes to the rover's address on record until the rover has written
first, and from then on to the address from which it did.

Nothing here waits: every function takes the time, and answers with the next
state and the packets to send.

## Main definitions

* `SessionTask`: A running session and the address it writes to.
* `Coordinator`: The node.
* `Coordinator.scan`: Giving missions to rovers.
* `Coordinator.receive`: A packet arrives.
* `Coordinator.wake`: Time has passed.
* `Coordinator.deadline?`: When waking next makes a difference.
-/

namespace RoverDispatch

/-- A running session, the address it writes to, and whether the rover has
    written from there. -/
structure SessionTask where
  supervisor : Supervisor
  peer : SocketAddress
  bound : Bool
  deriving DecidableEq

/-- A coordinator: its fleet and registry, its sessions by desk, and the times
    of the next scan and the next sweep once it runs. -/
structure Coordinator where
  settings : CoordinatorSettings
  dispatcher : Dispatcher Packet
  tasks : Table Nat SessionTask
  nextScan : Option Nat
  nextSweep : Option Nat

namespace Coordinator

/-- A coordinator that knows the rovers of its settings and does not run. -/
def start (settings : CoordinatorSettings) : Coordinator :=
  let fleet := settings.rovers.foldl (fun f e => f.register e.id (some e.address)) Fleet.empty
  { settings, dispatcher := { fleet, registry := .empty }, tasks := ∅
    nextScan := none, nextSweep := none }

/-- The coordinator's fleet. -/
def fleet (c : Coordinator) : Fleet := c.dispatcher.fleet

/-- The coordinator with another fleet. -/
def withFleet (c : Coordinator) (fleet : Fleet) : Coordinator :=
  { c with dispatcher := { c.dispatcher with fleet } }

/-- The coordinator with another registry. -/
def withRegistry (c : Coordinator) (registry : Registry Packet) : Coordinator :=
  { c with dispatcher := { c.dispatcher with registry } }

/-! ### Sessions -/

/-- A session has made something of an input: its messages go out, its events
    go into the fleet, its status is made known, and it leaves when nothing is
    left to do. -/
def conclude (c : Coordinator) (desk : Nat) (task : SessionTask) (r : SupervisorReaction)
    (now : Nat) : Coordinator × List Packet :=
  let packets := r.messages.map (fun m => ⟨task.peer, m⟩)
  -- Sending takes no time here, so the messages are out before anything else happens.
  let supervisor := if r.messages = [] then r.state else r.state.transmitted now
  let registry := c.dispatcher.registry.publish desk supervisor
  -- The fleet goes by the mission of the session, whoever holds it by now.
  let c := c.withFleet (c.fleet.applyAll supervisor.mission.id now r.events)
  if supervisor.isFinished then
    ({ c.withRegistry (registry.remove supervisor.rover supervisor.mission.id) with
       tasks := c.tasks.erase desk }, packets)
  else
    ({ c.withRegistry registry with
       tasks := c.tasks.insert desk { task with supervisor } }, packets)

/-- A session at a desk begins by greeting its rover. -/
def beginSession (c : Coordinator) (desk : Nat) (supervisor : Supervisor) (peer : SocketAddress)
    (now : Nat) : Coordinator × List Packet :=
  c.conclude desk { supervisor, peer, bound := false } (supervisor.greet now) now

/-- Start a session for a rover and a mission: reserve the rover's entry, tie
    rover and mission, and greet. Whatever fails takes back what came before
    it; a mission that cannot be cut into fragments has failed. -/
def startSession (c : Coordinator) (rover mission : Int) (now : Nat) :
    Bool × Coordinator × List Packet :=
  match c.dispatcher.registry.reserve rover mission now with
  | none => (false, c, [])
  | some (desk, reserved) =>
    -- The desk of a session that never began stays, without an entry.
    let released := reserved.remove rover mission
    match c.fleet.assign rover mission with
    -- A refusal may have left its mark on the rover, so the fleet is the one that came back.
    | (.error _, fleet) => (false, (c.withFleet fleet).withRegistry released, [])
    | (.ok m, fleet) =>
      let c := c.withFleet fleet
      match (fleet.rovers.find? rover).bind RoverRecord.endpoint with
      | none =>
        let fleet := (fleet.revert mission).toOption.getD fleet
        (false, (c.withFleet fleet).withRegistry released, [])
      | some peer =>
        match Supervisor.prepare c.settings.timing rover m with
        | .error e =>
          let fleet := (fleet.abandon mission e.message).toOption.getD fleet
          (false, (c.withFleet fleet).withRegistry released, [])
        | .ok supervisor => (true, (c.withRegistry reserved).beginSession desk supervisor peer now)

/-- Start a session for one more rover and mission of a scan. -/
def scanOne (now : Nat) (found : Nat × Coordinator × List Packet) (pair : Mission × Int) :
    Nat × Coordinator × List Packet :=
  let (n, c, packets) := found
  let (started, c, more) := c.startSession pair.2 pair.1.id now
  (if started then n + 1 else n, c, packets ++ more)

/-- The rovers that a scan can give missions to. -/
def freeRovers (c : Coordinator) : List Int :=
  c.fleet.available.filter (fun rover => !c.dispatcher.registry.contains rover)

/-- Give the waiting missions, in their order, to the free rovers in theirs:
    the number of sessions started. -/
def scan (c : Coordinator) (now : Nat) : Nat × Coordinator × List Packet :=
  (c.fleet.pendingMissions.zip c.freeRovers).foldl (scanOne now) (0, c, [])

/-! ### Packets -/

/-- The session at a desk reads a packet. The first one tells the rover's
    address. -/
def serve (c : Coordinator) (desk : Nat) (task : SessionTask) (p : Packet) (now : Nat) :
    Coordinator × List Packet :=
  let rover := task.supervisor.rover
  -- Once the address is known, later packets from elsewhere are served and not answered there.
  let peer := if task.bound then task.peer else p.peer
  let fleet :=
    if task.bound then c.fleet else (c.fleet.setEndpoint rover peer).toOption.getD c.fleet
  let c := (c.withFleet fleet).withRegistry (c.dispatcher.registry.touch desk now)
  c.conclude desk { task with peer, bound := true } (task.supervisor.receive p.message now) now

/-- The acknowledgement of a report that no session waits for. -/
def ackWithoutSession (m : Message) : Message :=
  { kind := .ack, sender := coordinatorId, receiver := m.sender, mission := m.mission
    seq := m.seq, success := true, payload := .ack ⟨[], m.kind.isTerminal⟩ }

/-- A packet for the coordinator. -/
def route (c : Coordinator) (p : Packet) (now : Nat) : Coordinator × List Packet :=
  match c.dispatcher.registry.dispatch p.message.sender p.message.mission p with
  | none =>
    (c, if p.message.kind.isReport then [⟨p.peer, ackWithoutSession p.message⟩] else [])
  | some registry =>
    match registry.entries.find? p.message.sender with
    | none => (c, [])
    | some e =>
      match registry.receive e.desk, c.tasks.find? e.desk with
      | (.packet p, registry), some task => (c.withRegistry registry).serve e.desk task p now
      | _, _ => (c.withRegistry registry, [])

/-- A packet arrives. One for another receiver is ignored. -/
def receive (c : Coordinator) (p : Packet) (now : Nat) : Coordinator × List Packet :=
  if p.message.receiver = coordinatorId then c.route p now else (c, [])

/-! ### Time -/

/-- The session at a desk acts if its time has come. -/
def pollTask (now : Nat) (found : Coordinator × List Packet) (desk : Nat) :
    Coordinator × List Packet :=
  let (c, packets) := found
  match c.tasks.find? desk with
  -- The session has left since the desks were listed.
  | none => found
  | some task =>
    if task.supervisor.deadline?.any (· ≤ now) then
      let (c, more) := c.conclude desk task (task.supervisor.poll now) now
      (c, packets ++ more)
    else found

/-- The sessions whose time has come act. -/
def pollTasks (c : Coordinator) (now : Nat) : Coordinator × List Packet :=
  c.tasks.keys.foldl (pollTask now) (c, [])

/-- The scan that is due. -/
def scanIfDue (c : Coordinator) (now : Nat) : Coordinator × List Packet :=
  match c.nextScan with
  | none => (c, [])
  | some time =>
    if now < time then (c, [])
    else { c with nextScan := some (time + c.settings.scanInterval) }.scan now |>.2

/-- Sessions that have been cut off leave. -/
def evict (c : Coordinator) : Coordinator :=
  let gone := c.tasks.keys.filter (fun desk => !c.dispatcher.registry.isConnected desk)
  { c with tasks := gone.foldl Table.erase c.tasks }

/-- The sweep that is due. -/
def sweepIfDue (c : Coordinator) (now : Nat) : Coordinator :=
  match c.nextSweep with
  | none => c
  | some time =>
    if now < time then c
    else
      let limits := ⟨c.settings.inactivity, c.settings.cooldown⟩
      let (_, dispatcher) := c.dispatcher.sweep limits now
      -- The next sweep counts from when this one was due, however late it is.
      { c with dispatcher, nextSweep := some (time + c.settings.sweepInterval) }.evict

/-- Time has passed: what is due by now is done once. -/
def wake (c : Coordinator) (now : Nat) : Coordinator × List Packet :=
  let (c, fromScan) := c.scanIfDue now
  let (c, fromTasks) := (c.sweepIfDue now).pollTasks now
  (c, fromScan ++ fromTasks)

/-- When waking next makes a difference. -/
def deadline? (c : Coordinator) : Option Nat :=
  c.tasks.values.foldl (fun t task => earliest t task.supervisor.deadline?)
    (earliest c.nextScan c.nextSweep)

/-- The coordinator runs from now on; the first scan and the first sweep are
    due at once. -/
def run (c : Coordinator) (now : Nat) : Coordinator :=
  { c with nextScan := some now, nextSweep := some now }

/-- The coordinator comes to rest: nothing is scanned or swept any more, and
    its sessions leave without a word. -/
def shutDown (c : Coordinator) : Coordinator :=
  { c with tasks := ∅, nextScan := none, nextSweep := none }

/-- Wake the coordinator whenever its time comes until a point in time, at
    most so often. -/
def wakeUntil (last : Nat) : Nat → Nat → Coordinator → Coordinator × List Packet
  | 0, _, c => (c, [])
  | n + 1, now, c =>
    match c.deadline? with
    | none => (c, [])
    | some time =>
      if last < time then (c, [])
      else
        -- Time does not run backwards, even if something was due before.
        let now := max now time
        let (c, packets) := c.wake now
        let (c, more) := wakeUntil last n now c
        (c, packets ++ more)

/-- How often a coordinator is woken between two points in time at most. -/
def maxWakes : Nat := 10000

/-- The coordinator after a while, and what it has sent. -/
def advance (c : Coordinator) (now wait : Nat) : Coordinator × List Packet :=
  wakeUntil (now + wait) maxWakes now c

end Coordinator

end RoverDispatch
