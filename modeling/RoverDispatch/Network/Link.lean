import RoverDispatch.Network.Address
import RoverDispatch.Wire.Datagram

/-!
# Links

Messages on their way into and out of the network.

A message is stamped with the time when it is sent. One that does not fit into
a datagram is not sent, and neither is anything on a host whose network takes
no datagrams; to the sender both are losses like any other. What arrives and
is no message is dropped.

## Main definitions

* `Packet`: A message with the address at its other end.
* `Link`: The network of a host.
* `Link.send`: The bytes that go out.
* `Link.receive`: The packet that comes in.
-/

namespace RoverDispatch

/-- A message with the address it comes from or goes to. -/
structure Packet where
  peer : SocketAddress
  message : Message
  deriving DecidableEq

/-- The network of a host: whether it takes datagrams. -/
structure Link where
  isOpen : Bool
  deriving DecidableEq, Inhabited

namespace Link

/-- The bytes of a message that is sent at a time in milliseconds, unless it
    is lost on the way out. -/
def send (l : Link) (m : Message) (now : Nat) : Option Bytes :=
  if l.isOpen then Message.toDatagram { m with sentAt := now } |>.toOption else none

/-- The packet in a datagram; what is no message is dropped. -/
def receive (peer : SocketAddress) (bytes : Bytes) : Option Packet :=
  (Message.decode bytes).toOption.map (fun message => ⟨peer, message⟩)

end Link

end RoverDispatch
