import RoverDispatch.Message.Basic

/-!
# Reactions

What a machine makes of an input.

Both ends of a session are machines that read no clock and no socket: a
message or a point in time goes in; the next state, the messages to send and
the events to act on come out.

## Main definitions

* `Reaction`: The next state, the messages and the events.
* `Reaction.quiet`: A state and nothing else.
-/

namespace RoverDispatch

/-- What a machine makes of an input: its next state, the messages to send and
    the events to act on, both in order. -/
structure Reaction (σ ε : Type) where
  state : σ
  messages : List Message := []
  events : List ε := []
  deriving DecidableEq

/-- A state and nothing else. -/
def Reaction.quiet {σ ε : Type} (s : σ) : Reaction σ ε := { state := s }

end RoverDispatch
