import RoverDispatch.Network.Link
import RoverDispatch.Node.Settings
import RoverDispatch.Session.Agent

/-!
# Rover Nodes

An agent on the network.

A rover answers whoever wrote to it last, and before anybody has written it
reports to the coordinator of its settings.

## Main definitions

* `RoverNode`: An agent and the address it writes to.
* `RoverNode.receive`: A packet arrives.
* `RoverNode.wake`: Time has passed.
-/

namespace RoverDispatch

/-- An agent and the address it writes to. -/
structure RoverNode where
  agent : Agent
  peer : SocketAddress
  deriving DecidableEq

namespace RoverNode

/-- The node of a rover; the fault that may be planned is one of the
    hardware. -/
def start (s : RoverSettings) : RoverNode :=
  let scheduled := s.failAt.map (fun percent => ⟨percent, .hardware⟩)
  { agent := .start s.id s.timing (.start s.simulation s.x s.y s.battery scheduled)
    peer := s.coordinator }

/-- The agent has made something of an input. -/
def conclude (n : RoverNode) (r : AgentReaction) : RoverNode × List Packet :=
  ({ n with agent := r.state }, r.messages.map (fun m => ⟨n.peer, m⟩))

/-- A packet arrives, perhaps one for another receiver; its sender is answered
    from now on. -/
def receive (n : RoverNode) (p : Packet) (now : Nat) : RoverNode × List Packet :=
  { n with peer := p.peer }.conclude (n.agent.receive p.message now)

/-- Time has passed: what is due by now is done. -/
def wake (n : RoverNode) (now : Nat) : RoverNode × List Packet :=
  n.conclude (n.agent.poll now)

/-- When waking next makes a difference. -/
def deadline? (n : RoverNode) : Option Nat := n.agent.deadline?

end RoverNode

end RoverDispatch
