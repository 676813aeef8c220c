import RoverDispatch.Wire.Schema

/-!
# Datagrams

One message as the bytes of one datagram.

A datagram is a header of fixed length, a byte that announces the payload, and
the payload: nothing for the empty one, a run of whole fields for the four
described by a schema, and bytes as they are for a piece of a mission. Bytes
after the announcement of the empty payload are ignored.

Reading checks from left to right, so of several faults the first in the
format is the one reported; only when everything else has been read is the
payload held against the kind.

## Main definitions

* `Message.encode`: A message as bytes.
* `Message.decode`: The message that bytes stand for.
* `maxDatagramLength`: The longest datagram that can be sent.
* `Message.toDatagram`: The bytes, if they fit into a datagram.
-/

namespace RoverDispatch

/-- The bytes of a header, up to and including the announcement of the
    payload. -/
def headerLength : Nat := 32

/-- A payload as bytes. -/
def Payload.encode : Payload → Bytes
  | fragment bytes => bytes
  | p => encodeFields p.toFields

/-- The payload of a schema in bytes. -/
def Schema.decode (s : Schema) (bs : Bytes) : Except WireError Payload := do
  let fields ← decodeFields bs
  let table ← FieldTable.ofFields fields
  s.read table

/-- The payload that was announced, in bytes. -/
def Payload.decode (tag : PayloadTag) (bs : Bytes) : Except WireError Payload :=
  match tag with
  | .empty => .ok .empty
  | .mission => Schema.mission.decode bs
  | .progress => Schema.progress.decode bs
  | .ack => Schema.ack.decode bs
  | .error => Schema.error.decode bs
  | .fragment => .ok (.fragment bs)

namespace Message

/-- A message as bytes. -/
def encode (m : Message) : Bytes :=
  Word.be 1 wireVersion ++ Word.be 1 m.kind.code ++
    (Value.int 4 m.sender ++ Value.int 4 m.receiver ++ Value.int 4 m.mission ++
      Value.int 4 m.seq ++ Value.int 4 m.total) ++
    (Value.bool m.success ++ Value.int 8 m.sentAt ++ Word.be 1 m.payload.tag.code) ++
    m.payload.encode

/-- The signed number in the `w` bytes from a place in a header. -/
def intAt (header : Bytes) (place w : Nat) : Int :=
  Word.toSigned w (Word.ofBe ((header.drop place).take w))

/-- The byte at a place in a header. -/
def byteAt (header : Bytes) (place : Nat) : Nat := Word.ofBe ((header.drop place).take 1)

/-- The message that bytes stand for. -/
def decode (bs : Bytes) : Except WireError Message := do
  let header := bs.take headerLength
  if header.length < headerLength then
    .error (.tooShort headerLength header.length)
  if byteAt header 0 ≠ wireVersion then
    .error (.unsupportedVersion (byteAt header 0))
  let some kind := Kind.ofCode? (byteAt header 1)
    | .error (.unknownKind (byteAt header 1))
  let some tag := PayloadTag.ofCode? (byteAt header 31)
    | .error (.unknownPayloadTag (byteAt header 31))
  let payload ← Payload.decode tag (bs.drop headerLength)
  if kind.accepts payload.tag then
    return {
      kind
      sender := intAt header 2 4
      receiver := intAt header 6 4
      mission := intAt header 10 4
      seq := intAt header 14 4
      total := intAt header 18 4
      success := byteAt header 22 ≠ 0
      sentAt := intAt header 23 8
      payload }
  else .error (.payloadMismatch kind payload.tag)

end Message

/-- The longest datagram that can be sent. -/
def maxDatagramLength : Nat := 65507

/-- The bytes of a message if they fit into a datagram, otherwise how many
    there are. -/
def Message.toDatagram (m : Message) : Except Nat Bytes :=
  let bytes := m.encode
  if maxDatagramLength < bytes.length then .error bytes.length else .ok bytes

end RoverDispatch
