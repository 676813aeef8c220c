import RoverDispatch.Transfer.Split

/-!
# Transfer Messages

A mission as the messages that bring it to a rover.

A session numbers what the coordinator sends: the hello comes first, and the
mission follows it. A mission that fits into one message is sent as it is; a
larger one is cut into fragments, one message each, which all announce how
many there are.

## Main definitions

* `helloSeq`, `firstTransferSeq`: The numbers that are fixed.
* `Mission.transferMessages`: The messages of a mission.
-/

namespace RoverDispatch

/-- The number of a hello. -/
def helloSeq : Int := 1

/-- The number of the first message of a transfer. -/
def firstTransferSeq : Int := 2

namespace Mission

/-- The message of a transfer that has the place `i` of `total`. -/
def transferMessage (m : Mission) (rover total : Int) (i : Nat) (payload : Payload) : Message :=
  { kind := .mission, sender := coordinatorId, receiver := rover, mission := m.id,
    seq := firstTransferSeq + i, total, payload }

/-- The messages that bring a mission to a rover, fragments holding at most
    `limit` bytes of fields. -/
def transferMessages (m : Mission) (rover : Int) (limit : Nat) :
    Except TransferError (List Message) :=
  if needsFragments limit m.toFields then do
    let frags ← fragments limit m.toFields
    return frags.mapIdx (fun i frag =>
      m.transferMessage rover frags.length i (.fragment (encodeFields frag)))
  else
    return [m.transferMessage rover 1 0 (.mission m)]

end Mission

end RoverDispatch
