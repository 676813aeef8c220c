import Mathlib
import RoverDispatch.Proofs.Wire.Payloads

/-!
# Messages on the Wire

The format carries exactly the messages that fit, and it carries them
unchanged.

A message fits if words hold its numbers and its payload fits. Such a message
is read back from its own bytes, unless its kind does not admit the payload;
then this is what the reader complains about, since everything before the
payload is in order. Conversely, whatever bytes are read as a message, the
message fits and its kind admits the payload. A datagram need not be the one
that the message is written as: the byte of a truth value can be any but zero,
fields can come in any order and more than once, and what follows the header
of a message without payload is ignored. But the message that is read is
written and read again without a change.

## Main definitions

* `Message.Fits`: The words of the format can hold a message.
* `Message.header`: The bytes of a message in front of the payload.

## Theorems

* `Message.intAt_header`, `Message.byteAt_header`: What stands in a header.
* `Message.decode_encode`: A message that fits is read back, if its kind admits
  the payload.
* `Message.of_decode_header_append`: What is read behind a header.
* `Message.of_decode_encode`: What is read back of any message.
* `Message.of_decode`: Only messages that fit are read.
* `Message.codec_inverse`: The format carries exactly the messages that fit.
-/

namespace RoverDispatch

theorem Kind.ofCode?_code (kind : Kind) : ofCode? kind.code = some kind := by
  cases kind <;> rfl

theorem PayloadTag.ofCode?_code (tag : PayloadTag) : ofCode? tag.code = some tag := by
  cases tag <;> rfl

namespace Message

/-- The words of the format can hold a message. -/
def Fits (m : Message) : Prop :=
  Word.InRange 4 m.sender ∧ Word.InRange 4 m.receiver ∧ Word.InRange 4 m.mission ∧
    Word.InRange 4 m.seq ∧ Word.InRange 4 m.total ∧ Word.InRange 8 m.sentAt ∧ m.payload.Fits

instance (m : Message) : Decidable m.Fits := inferInstanceAs (Decidable (_ ∧ _))

/-! ### Headers -/

/-- The bytes of a message in front of the payload. -/
def header (m : Message) : Bytes :=
  Word.be 1 wireVersion ++ Word.be 1 m.kind.code ++
    (Value.int 4 m.sender ++ Value.int 4 m.receiver ++ Value.int 4 m.mission ++
      Value.int 4 m.seq ++ Value.int 4 m.total) ++
    (Value.bool m.success ++ Value.int 8 m.sentAt ++ Word.be 1 m.payload.tag.code)

theorem encode_eq (m : Message) : m.encode = m.header ++ m.payload.encode := rfl

/-- A truth value is a word of one byte. -/
theorem bool_eq_be (b : Bool) : Value.bool b = Word.be 1 b.toNat := by
  cases b <;> rfl

theorem length_header (m : Message) : m.header.length = headerLength := by
  simp only [header, bool_eq_be, List.length_append, Word.length_be, Value.length_int]
  rfl

/-- The numbers of a message stand in its header one after another. -/
theorem intAt_header {m : Message} (h : m.Fits) :
    intAt m.header 2 4 = m.sender ∧ intAt m.header 6 4 = m.receiver ∧
      intAt m.header 10 4 = m.mission ∧ intAt m.header 14 4 = m.seq ∧
      intAt m.header 18 4 = m.total ∧ intAt m.header 23 8 = m.sentAt := by
  rcases h with ⟨hsender, hreceiver, hmission, hseq, htotal, hsentAt, -⟩
  -- What stands before a number has a known length, and so has the number.
  simp [intAt, header, bool_eq_be, List.drop_append, Value.length_int, List.drop_eq_nil_of_le,
    Value.toSigned_int hsender, Value.toSigned_int hreceiver, Value.toSigned_int hmission,
    Value.toSigned_int hseq, Value.toSigned_int htotal, Value.toSigned_int hsentAt]

theorem ofBe_be_one {n : Nat} (h : n < 256) : Word.ofBe (Word.be 1 n) = n := by
  rw [Word.ofBe_be]
  exact Nat.mod_eq_of_lt h

/-- So do the version, the kind, the truth value and the announcement of the
    payload. -/
theorem byteAt_header (m : Message) :
    byteAt m.header 0 = wireVersion ∧ byteAt m.header 1 = m.kind.code ∧
      byteAt m.header 22 = m.success.toNat ∧ byteAt m.header 31 = m.payload.tag.code := by
  have hversion := ofBe_be_one (n := wireVersion) (by decide)
  have hkind := ofBe_be_one (n := m.kind.code) (by cases m.kind <;> decide)
  have htag := ofBe_be_one (n := m.payload.tag.code) (by cases m.payload.tag <;> decide)
  have hsuccess := ofBe_be_one (n := m.success.toNat) (by cases m.success <;> decide)
  simp [byteAt, header, bool_eq_be, List.drop_append, Value.length_int, List.drop_eq_nil_of_le,
    List.take_of_length_le, hversion, hkind, hsuccess, htag]

theorem take_encode (m : Message) : m.encode.take headerLength = m.header := by
  rw [encode_eq, List.take_left' m.length_header]

theorem drop_encode (m : Message) : m.encode.drop headerLength = m.payload.encode := by
  rw [encode_eq, List.drop_left' m.length_header]

/-! ### Messages -/

/-- A message that fits is read back, if its kind admits the payload; otherwise
    this is what is wrong with it. -/
theorem decode_encode {m : Message} (h : m.Fits) :
    decode m.encode =
      if m.kind.accepts m.payload.tag then .ok m
      else .error (.payloadMismatch m.kind m.payload.tag) := by
  rcases byteAt_header m with ⟨hversion, hkind, hsuccess, htag⟩
  rcases intAt_header h with ⟨hsender, hreceiver, hmission, hseq, htotal, hsentAt⟩
  have htruth : decide (m.success.toNat ≠ 0) = m.success := by
    cases m.success <;> rfl
  have hpayload := Payload.decode_encode h.2.2.2.2.2.2
  simp only [decode, take_encode, drop_encode, length_header, Nat.lt_irrefl, if_false, hversion,
    hkind, Kind.ofCode?_code, htag, PayloadTag.ofCode?_code, hpayload, bind,
    Except.bind, hsender, hreceiver, hmission, hseq, htotal, hsuccess, htruth, hsentAt]
  exact if_neg (not_not_intro rfl)

theorem decode_encode_of_accepts {m : Message} (h : m.Fits)
    (haccepts : m.kind.accepts m.payload.tag = true) : decode m.encode = .ok m := by
  rw [decode_encode h, if_pos haccepts]

/-- Whatever stands behind a header, a message that is read has the kind that
    the header names, the mission if a word holds it, and the payload that is
    read from the rest. -/
theorem of_decode_header_append {m x : Message} {rest : Bytes}
    (h : decode (m.header ++ rest) = .ok x) :
    x.kind = m.kind ∧ (Word.InRange 4 m.mission → x.mission = m.mission) ∧
      Payload.decode m.payload.tag rest = .ok x.payload := by
  -- Version, kind and payload tag are read from single bytes of the header.
  rcases byteAt_header m with ⟨hversion, hkind, -, htag⟩
  simp only [decode, List.take_left' m.length_header, List.drop_left' m.length_header,
    length_header, Nat.lt_irrefl, if_false, hversion, hkind, Kind.ofCode?_code, htag,
    PayloadTag.ofCode?_code] at h
  rcases exists_of_bind_eq_ok h with ⟨payload, hpayload, h⟩
  split at h
  · cases h
    refine ⟨rfl, fun hmission => ?_, hpayload⟩
    simp [intAt, header, bool_eq_be, List.drop_append, Value.length_int,
      List.drop_eq_nil_of_le, Value.toSigned_int hmission]
  · cases h

/-- Whatever else may be lost of a message that does not fit, its kind is read
    back, and so is what fits. -/
theorem of_decode_encode {m x : Message} (h : decode m.encode = .ok x) :
    x.kind = m.kind ∧ (Word.InRange 4 m.mission → x.mission = m.mission) ∧
      (m.payload.Fits → x.payload = m.payload) := by
  rw [encode_eq] at h
  rcases of_decode_header_append h with ⟨hkind, hmission, hpayload⟩
  refine ⟨hkind, hmission, fun hfits => ?_⟩
  rw [Payload.decode_encode hfits] at hpayload
  exact (Except.ok.inj hpayload).symm

/-- The word at a place within a header is a number in range. -/
theorem inRange_intAt {bs : Bytes} {place w : Nat} (h : place + w ≤ bs.length) :
    Word.InRange w (intAt bs place w) := by
  have hlen : ((bs.drop place).take w).length = w := by
    rw [List.length_take, List.length_drop]
    omega
  have hlt := Word.ofBe_lt ((bs.drop place).take w)
  rw [hlen] at hlt
  exact Word.inRange_toSigned hlt

/-- Only messages that fit are read, and only with a payload that their kind
    admits. -/
theorem of_decode {bs : Bytes} {m : Message} (h : decode bs = .ok m) :
    m.Fits ∧ m.kind.accepts m.payload.tag = true := by
  simp only [decode] at h
  split at h
  · cases h
  · rename_i hlen
    split at h
    · cases h
    · split at h
      · split at h
        · rcases exists_of_bind_eq_ok h with ⟨payload, hpayload, h⟩
          split at h
          · rename_i haccepts
            cases h
            -- Whatever the bytes of a word are, its number is in range.
            have hword : ∀ {place w : Nat}, place + w ≤ headerLength →
                Word.InRange w (intAt (bs.take headerLength) place w) :=
              fun hle => inRange_intAt (Nat.le_trans hle (Nat.le_of_not_lt hlen))
            exact ⟨⟨hword (by decide), hword (by decide), hword (by decide), hword (by decide),
              hword (by decide), hword (by decide), (Payload.fits_of_decode hpayload).1⟩, haccepts⟩
          · cases h
        · cases h
      · cases h

/-- The format carries exactly the messages that fit, with a payload that their
    kind admits. A message that fits is read back as it was; with a payload that
    its kind does not admit, this is the error. Whatever else bytes may hold,
    a message that is read from them fits, its kind admits the payload, and it
    is read back from its own bytes. -/
theorem codec_inverse :
    (∀ m : Message, m.Fits →
      (m.kind.accepts m.payload.tag = true → decode m.encode = .ok m) ∧
      (m.kind.accepts m.payload.tag = false →
        decode m.encode = .error (.payloadMismatch m.kind m.payload.tag))) ∧
    (∀ (bs : Bytes) (m : Message), decode bs = .ok m →
      m.Fits ∧ m.kind.accepts m.payload.tag = true ∧ decode m.encode = .ok m) := by
  refine ⟨fun m hm => ⟨fun haccepts => ?_, fun hrefuses => ?_⟩, fun bs m h => ?_⟩
  · rw [decode_encode hm, if_pos haccepts]
  · rw [decode_encode hm, if_neg (ne_true_of_eq_false hrefuses)]
  · rcases of_decode h with ⟨hm, haccepts⟩
    refine ⟨hm, haccepts, ?_⟩
    rw [decode_encode hm, if_pos haccepts]

/-- An error report with a fault of its own is read back, and refused as an
    acknowledgement. A hello with another truth value and a trailing byte is not
    written as it came, but it is read as what it is written as. -/
theorem codec_inverse_report :
    let report : ErrorReport := ⟨7, .other 42, "sonda presa à rocha", ⟨0x7fc00001⟩, .hundred, .zero,
      .negate .zero, -1⟩
    let m (kind : Kind) : Message :=
      { kind, sender := 3, receiver := coordinatorId, mission := 7, seq := 9,
        payload := .error report }
    let hello : Message :=
      { kind := .hello, sender := coordinatorId, receiver := 3, mission := 7, seq := 1,
        success := true }
    let datagram := (hello.encode.set 22 5) ++ [0xff]
    (m .error).Fits ∧ decode (m .error).encode = .ok (m .error) ∧
      decode (m .ack).encode = .error (.payloadMismatch .ack .error) ∧
      datagram ≠ hello.encode ∧ decode datagram = .ok hello ∧ hello.Fits ∧
      decode hello.encode = .ok hello := by
  intro report m hello datagram
  have hdatagram : decode datagram = .ok hello := by decide +kernel
  -- Whether a message fits does not depend on its kind.
  have hfits : ∀ kind, (m kind).Fits := fun _ => (by decide +kernel : (m .error).Fits)
  rcases codec_inverse.2 datagram hello hdatagram with ⟨hhello, -, hagain⟩
  exact ⟨hfits .error, (codec_inverse.1 _ (hfits .error)).1 rfl,
    (codec_inverse.1 _ (hfits .ack)).2 rfl, by decide +kernel, hdatagram, hhello, hagain⟩

end Message

end RoverDispatch
