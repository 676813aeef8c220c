import Mathlib
import RoverDispatch.Proofs.Wire.Messages
import RoverDispatch.Proofs.Wire.SchemaReading

/-!
# Datagrams That Are Cut Short

A message is not read from a part of its datagram.

A datagram is not framed: nothing in it says how long it is. A cut within the
header is seen, since a header has one length, and so is a cut within a field,
since a field announces its own. A cut between two fields is not seen by either
of them. What is left is a run of fields as good as any other, and it is the
schema that misses the fields behind the cut: it asks for every one of its
names before it answers with a payload, and each of them is written once, so
none of the names behind the cut stands before it.

The pieces of a mission have no schema. Their bytes are read as they come, so a
part of a piece is a piece, and the account leaves them out. A message without
payload ends with its header.

## Theorems

* `isPrefix_of_encodeFields`: A run in front of another one consists of its
  first fields.
* `Schema.not_readFields_of_isPrefix`: A schema misses the fields behind a cut.
* `Payload.not_decode_of_isPrefix`: A payload is not read from a part of its
  bytes.
* `Message.truncated_refused`: A message is not read from a part of its
  datagram.
-/

namespace RoverDispatch

/-- What does not succeed fails. -/
theorem exists_error_of_forall_ne_ok {ε α : Type} {x : Except ε α} (h : ∀ a, x ≠ .ok a) :
    ∃ e, x = .error e := by
  cases x with
  | error e => exact ⟨e, rfl⟩
  | ok a => exact absurd rfl (h a)

/-- A run in front of another one consists of its first fields. -/
theorem isPrefix_of_encodeFields {before fields : List Field} (hbefore : ∀ f ∈ before, f.Fits)
    (hfields : ∀ f ∈ fields, f.Fits) (h : encodeFields before <+: encodeFields fields) :
    before <+: fields := by
  induction before generalizing fields with
  | nil => exact List.nil_prefix
  | cons g before ih =>
      rcases List.forall_mem_cons.1 hbefore with ⟨hg, hothers⟩
      rcases h with ⟨missing, h⟩
      rw [encodeFields_cons, List.append_assoc] at h
      cases fields with
      | nil => exact absurd (List.append_eq_nil_iff.1 h).1 g.encode_ne_nil
      | cons f fields =>
          rcases List.forall_mem_cons.1 hfields with ⟨hf, hlater⟩
          -- The same bytes are read once as either field, so these are one.
          have hread := Field.decode_encode hg (encodeFields before ++ missing)
          rw [h, encodeFields_cons, Field.decode_encode hf] at hread
          rcases Prod.mk.inj (Except.ok.inj hread) with ⟨rfl, hrest⟩
          exact (List.prefix_cons_inj f).2 (ih hothers hlater ⟨missing, hrest.symm⟩)

namespace Schema

variable {s : Schema} {before fields : List Field}

/-- A schema misses the fields behind a cut. -/
theorem not_readFields_of_isPrefix (hnames : fields.map Field.name = s.fieldNames)
    (hfront : before <+: fields) (hne : before ≠ fields) (p : Payload) :
    s.readFields before ≠ .ok p := by
  intro h
  rcases exists_of_bind_eq_ok h with ⟨t, ht, hread⟩
  rcases hfront with ⟨after, rfl⟩
  cases after with
  | nil => exact hne (List.append_nil before).symm
  | cons f after =>
      have hmem : f.name ∈ s.fieldNames := by
        rw [← hnames]
        exact List.mem_map_of_mem (List.mem_append_right before (List.mem_cons_self ..))
      -- The name of the field is asked for, but no field before the cut has it.
      have hsome := isSome_find?_of_read hread f.name hmem
      have hnodup := (Payload.fieldNames_valid s).1
      rw [← hnames, List.map_append, List.map_cons, List.nodup_middle] at hnodup
      have hnone : lastData? before f.name = none := by
        refine lastData?_eq_none_iff.2 (fun g hg hname => (List.nodup_cons.1 hnodup).1 ?_)
        exact List.mem_append_left _ (hname ▸ List.mem_map_of_mem hg)
      rw [FieldTable.find?_ofFields ht, hnone] at hsome
      cases hsome

end Schema

namespace Payload

variable {p q : Payload} {s : Schema} {bs : Bytes}

/-- A schema does not read a payload from a part of the bytes of one. -/
theorem not_schema_decode_of_isPrefix (h : p.LengthsFit) (htag : p.tag = s.tag)
    (hfront : bs <+: encodeFields p.toFields) (hne : bs ≠ encodeFields p.toFields) :
    s.decode bs ≠ .ok q := by
  intro hdecode
  rw [Schema.decode_eq] at hdecode
  rcases exists_of_bind_eq_ok hdecode with ⟨before, hfields, hread⟩
  rcases decodeFields_eq_ok_iff.1 hfields with ⟨hbefore, rfl⟩
  refine Schema.not_readFields_of_isPrefix (map_name_toFields htag)
    (isPrefix_of_encodeFields hbefore (h.fits htag) hfront) (fun heq => ?_) q hread
  exact hne (congrArg encodeFields heq)

/-- A payload is not read from a part of its bytes, unless it is a piece of a
    mission. -/
theorem not_decode_of_isPrefix (h : p.LengthsFit) (hpiece : p.tag ≠ .fragment)
    (hfront : bs <+: p.encode) (hne : bs ≠ p.encode) : decode p.tag bs ≠ .ok q := by
  cases p with
  | empty => exact absurd (List.prefix_nil.1 hfront) hne
  | fragment bytes => exact absurd rfl hpiece
  | mission m => exact not_schema_decode_of_isPrefix (s := .mission) h rfl hfront hne
  | progress p => exact not_schema_decode_of_isPrefix (s := .progress) h rfl hfront hne
  | ack a => exact not_schema_decode_of_isPrefix (s := .ack) h rfl hfront hne
  | error e => exact not_schema_decode_of_isPrefix (s := .error) h rfl hfront hne

end Payload

namespace Message

variable {m x : Message} {bs : Bytes}

/-- Nothing shorter than a header is read. -/
theorem headerLength_le_of_decode (h : decode bs = .ok x) : headerLength ≤ bs.length := by
  simp only [decode, List.length_take] at h
  split at h
  · cases h
  · omega

/-- A message is not read from a part of its datagram: whatever its kind, and
    unless it carries a piece of a mission, what is left after a cut is
    refused wherever the cut falls. -/
theorem truncated_refused (hpiece : m.payload.tag ≠ .fragment) (hlengths : m.payload.LengthsFit)
    (hfront : bs <+: m.encode) (hcut : bs ≠ m.encode) : ∃ e, decode bs = .error e := by
  refine exists_error_of_forall_ne_ok fun x h => ?_
  rw [encode_eq] at hfront hcut
  -- What is long enough for a header starts with the header of the message.
  have hheader : m.header <+: bs := by
    refine List.prefix_of_prefix_length_le (List.prefix_append _ _) hfront ?_
    rw [length_header]
    exact headerLength_le_of_decode h
  rcases hheader with ⟨rest, rfl⟩
  refine Payload.not_decode_of_isPrefix hlengths hpiece ((List.prefix_append_right_inj _).1 hfront)
    (fun heq => ?_) (of_decode_header_append h).2.2
  exact hcut (congrArg (m.header ++ ·) heq)

/-- Progress is read from its datagram, and from none of the shorter ones it
    starts with. One of these ends behind the first of its three fields, which
    is a run of fields on its own. -/
theorem truncated_refused_progress :
    let m : Message :=
      { kind := .progress, sender := 3, receiver := coordinatorId, mission := 7, seq := 4,
        payload := .progress ⟨7, 30, .hundred⟩ }
    m.payload.tag ≠ .fragment ∧ m.payload.LengthsFit ∧ decode m.encode = .ok m ∧
      decodeFields ((m.encode.take 54).drop headerLength) = .ok [.int32 "idMissao" 7] ∧
      ∀ n < 120, m.encode.take n <+: m.encode ∧ m.encode.take n ≠ m.encode ∧
        ∃ e, decode (m.encode.take n) = .error e := by
  intro m
  have hlengths : m.payload.LengthsFit := by decide +kernel
  have hlen : m.encode.length = 120 := by decide +kernel
  refine ⟨by decide, hlengths, by decide +kernel, by decide +kernel, fun n hn => ?_⟩
  have hfront : m.encode.take n <+: m.encode := List.take_prefix n m.encode
  have hcut : m.encode.take n ≠ m.encode := by
    intro h
    have hshorter := congrArg List.length h
    rw [List.length_take, hlen] at hshorter
    omega
  exact ⟨hfront, hcut, truncated_refused (by decide) hlengths hfront hcut⟩

end Message

end RoverDispatch
