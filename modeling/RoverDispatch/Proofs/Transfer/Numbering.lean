import RoverDispatch.Proofs.Session.Supervisors
import RoverDispatch.Proofs.Transfer.Fragments
import RoverDispatch.Proofs.Transfer.Missions

/-!
# Numbered Transfers

Every message of a transfer can be sent, and a receiver can tell from its
numbers where it belongs.

A transfer is a list of payloads that are numbered in order: the mission alone,
or the fragments it was cut into. `Mission.Contents` says which of the two it
is, and both ask the same question, whether the mission is within the limit. So
a transfer of one message is exactly one that was not cut.

The limit is on fields, and a datagram holds a header besides. The two limits
have nothing to do with each other in the code that cuts a mission, and a
message that is too long for a datagram is lost each time it is sent. That
there is none rests on the bound of the limit, since no payload exceeds it.

## Main definitions

* `Mission.Contents`: What the messages of a transfer bring.

## Theorems

* `Message.length_encode`: How long the bytes of a message are.
* `Mission.exists_contents`: A transfer is its contents, numbered in order.
* `Mission.Contents.length_eq_one_iff`: When there is one message.
* `Mission.Contents.length_encode_le`: No payload exceeds the limit.
* `Mission.map_seq_transfer`: The numbers of a transfer.
* `Supervisor.transfer_numbered`: Every message of a transfer can be sent and is
  well numbered.
-/

namespace RoverDispatch

/-- The bytes of a message are those of its header and its payload. -/
theorem Message.length_encode (m : Message) :
    m.encode.length = headerLength + m.payload.encode.length := by
  rw [encode_eq, List.length_append, length_header]

/-- A message whose payload leaves room for a header is sent. -/
theorem Message.toDatagram_of_le {m : Message}
    (h : headerLength + m.payload.encode.length ≤ maxDatagramLength) :
    m.toDatagram = .ok m.encode := by
  rw [toDatagram, length_encode]
  exact if_neg (Nat.not_lt.2 h)

namespace Mission

/-- What the messages of a transfer bring, in order: a mission within the limit,
    or the fragments of a longer one. -/
inductive Contents (m : Mission) (limit : Nat) : List Payload → Prop where
  | whole (short : fieldsLength m.toFields ≤ limit) : Contents m limit [.mission m]
  | cut {frags : List (List Field)} (long : limit < fieldsLength m.toFields)
      (made : fragments limit m.toFields = .ok frags) :
      Contents m limit (frags.map (fun frag => .fragment (encodeFields frag)))

section Contents

variable {m : Mission} {rover : Int} {limit : Nat} {payloads : List Payload}
  {transfer : List Message}

/-- A transfer is its contents, numbered in order. -/
theorem exists_contents (h : m.transferMessages rover limit = .ok transfer) :
    ∃ payloads, m.Contents limit payloads ∧
      transfer = payloads.mapIdx (m.transferMessage rover payloads.length) := by
  rw [transferMessages] at h
  split at h
  · rename_i hneeds
    cases hfrags : fragments limit m.toFields with
    | error e =>
        rw [hfrags] at h
        cases h
    | ok frags =>
        rw [hfrags] at h
        cases h
        refine ⟨_, .cut (of_decide_eq_true hneeds) hfrags, ?_⟩
        -- Fragment by fragment, the contents are the fields of the fragment.
        refine List.ext_getElem (by simp) (fun i _ _ => ?_)
        simp only [List.getElem_mapIdx, List.getElem_map, List.length_map]
  · rename_i hneeds
    cases h
    exact ⟨_, .whole (Nat.le_of_not_lt (fun hlong => hneeds (decide_eq_true hlong))), rfl⟩

/-- There is one message exactly when the mission is within the limit. -/
theorem Contents.length_eq_one_iff (h : m.Contents limit payloads) :
    payloads.length = 1 ↔ fieldsLength m.toFields ≤ limit := by
  cases h with
  | whole short => exact iff_of_true rfl short
  | cut long made =>
      rw [List.length_map]
      exact iff_of_false
        (fun hone => Nat.not_le_of_lt long (fieldsLength_le_of_fragments made hone))
        (Nat.not_le_of_lt long)

/-- No payload exceeds the limit. -/
theorem Contents.length_encode_le (h : m.Contents limit payloads) {p : Payload}
    (hp : p ∈ payloads) : p.encode.length ≤ limit := by
  cases h with
  | whole short =>
      rw [List.mem_singleton.1 hp]
      exact (length_encodeFields m.toFields).trans_le short
  | cut long made =>
      rcases List.mem_map.1 hp with ⟨frag, hfrag, rfl⟩
      exact (length_encodeFields frag).trans_le (of_mem_fragments made hfrag).2

/-- Payloads that are numbered in order have all numbers from the first one
    on. -/
theorem map_seq_transfer (m : Mission) (rover total : Int) (payloads : List Payload) :
    (payloads.mapIdx (m.transferMessage rover total)).map Message.seq =
      intRange firstTransferSeq (firstTransferSeq + payloads.length) := by
  have hlength : (firstTransferSeq + payloads.length - firstTransferSeq).toNat =
      payloads.length := by omega
  rw [intRange, hlength]
  refine List.ext_getElem (by simp) (fun i hi _ => ?_)
  simp only [List.getElem_map, List.getElem_mapIdx, List.getElem_range]
  rfl

end Contents

end Mission

/-- Every message of a transfer can be sent, as long as a datagram can hold a
    fragment of the largest size besides the header. A transfer has at least one
    message, and they have the numbers from two on, in order; each of them tells
    how many there are and is about the mission and for the rover of the session.
    There is one message exactly when the fields of the mission are within the
    size of a fragment. Each fits into a datagram, and the datagram is read as the
    very message. -/
theorem Supervisor.transfer_numbered {timing : Timing} {rover : Int} {m : Mission} {s : Supervisor}
    (hsize : timing.fragmentSize ≤ maxDatagramLength - headerLength)
    (hrover : Word.InRange 4 rover) (hm : m.Fits) (hs : prepare timing rover m = .ok s) :
    let count := s.transfer.length
    0 < count ∧ s.transfer.map Message.seq = intRange 2 (count + 2) ∧
    (∀ x ∈ s.transfer, x.kind = .mission ∧ x.total = count ∧ x.sender = coordinatorId ∧
      x.receiver = rover ∧ x.mission = m.id) ∧
    (count = 1 ↔ fieldsLength m.toFields ≤ timing.fragmentSize) ∧
    ∀ x ∈ s.transfer, ∃ datagram, x.toDatagram = .ok datagram ∧
      Message.decode datagram = .ok x := by
  intro count
  rcases of_prepare hs with ⟨transfer, htransfer, rfl⟩
  rcases Mission.exists_sends htransfer with ⟨frags, hsends, hshort⟩
  rcases Mission.exists_contents htransfer with ⟨payloads, hcontents, hnumbered⟩
  have hcount : count = payloads.length := by
    rw [← List.length_mapIdx (f := m.transferMessage rover payloads.length), ← hnumbered]
  refine ⟨List.length_pos_iff.2 hsends.ne_nil, ?_, ?_, ?_, ?_⟩
  · rw [hcount, hnumbered, Mission.map_seq_transfer, Int.add_comm]
    rfl
  · intro x hx
    rw [hnumbered] at hx
    rcases List.mem_mapIdx.1 hx with ⟨i, hi, rfl⟩
    exact ⟨rfl, congrArg Nat.cast hcount.symm, rfl, rfl, rfl⟩
  · rw [hcount]
    exact hcontents.length_eq_one_iff
  · intro x hx
    rcases hsends.fits hm hrover hshort hx with ⟨hfits, haccepts⟩
    refine ⟨x.encode, Message.toDatagram_of_le ?_, Message.decode_encode_of_accepts hfits haccepts⟩
    -- A message is as long as its header and its contents, and both have room.
    have hpayload : x.payload ∈ payloads := by
      rw [hnumbered] at hx
      rcases List.mem_mapIdx.1 hx with ⟨i, hi, rfl⟩
      exact List.getElem_mem hi
    have hle := hcontents.length_encode_le hpayload
    have hroom : headerLength ≤ maxDatagramLength := by decide
    omega

/-- A mission that is cut into three fragments. -/
theorem Supervisor.transfer_numbered_three :
    let m : Mission := ⟨1, .zero, .zero, .zero, .zero, "scan", 60, 2, 0, 1⟩
    ∃ s, prepare { fragmentSize := 96 } 7 m = .ok s ∧
      s.transfer.map Message.seq = [2, 3, 4] ∧
      (∀ x ∈ s.transfer, x.total = 3 ∧ x.receiver = 7 ∧ x.mission = 1) ∧
      96 < fieldsLength m.toFields ∧
      ∀ x ∈ s.transfer, ∃ datagram, x.toDatagram = .ok datagram ∧
        Message.decode datagram = .ok x := by
  intro m
  have hrun : ∃ s, prepare { fragmentSize := 96 } 7 m = .ok s ∧ s.transfer.length = 3 :=
    exists_prepare_of_check (by decide +kernel)
  rcases hrun with ⟨s, hs, hcount⟩
  rcases transfer_numbered (by decide) (by decide) (by decide) hs with
    ⟨-, hseqs, habout, hone, hcarried⟩
  rw [hcount] at hseqs habout hone
  refine ⟨s, hs, hseqs, fun x hx => ?_, Nat.lt_of_not_le (fun hfit => ?_), hcarried⟩
  · rcases habout x hx with ⟨-, htotal, -, hreceiver, hmission⟩
    exact ⟨htotal, hreceiver, hmission⟩
  · exact absurd (hone.2 hfit) (by decide)

end RoverDispatch
