import Mathlib
import RoverDispatch.Proofs.Wire.Fields

/-!
# Runs of Fields

Bytes are a run of fields in at most one way, and a run that is cut short is
either a shorter run or recognised as cut.

A field announces the length of its name and of its data and says nothing
twice, so nothing is left to the writer: bytes that are read as a field are
what this field is written as. Reading is also local. Whatever a reader
answers, unless it asks for more bytes, it goes on to answer when more bytes
follow, since it has not looked beyond those it took. `Field.Streams` says this
of any reader that gives back the bytes it leaves, and it holds of a sequence
of readers when it holds of each of them, so for a field it follows from the
one reader that all others are made of.

Cutting is then settled without looking at where in a field the cut falls.
Were a part of a field read, or refused for anything but its length, the whole
field would be read or refused alike, and it is read as itself with nothing
left over. In a run, the fields before the cut are read one by one, and what
decides is whether anything of the next field remains.

## Main definitions

* `IsTooShort`: The answer that bytes are missing.
* `Field.Streams`: A reader that sees no further than the bytes it takes.

## Theorems

* `exists_of_bind_eq_ok`: What succeeds has succeeded step by step.
* `Field.takeBytes_eq_ok_iff`: What is taken stands in front.
* `Field.Streams.bind`: Readers that follow one another see no further than
  each of them.
* `Field.streams_decode`: Reading a field sees no further than the field.
* `Field.decode_eq_ok_iff`: A field is read exactly from its own bytes.
* `Field.decode_take`: A field that is cut is too short.
* `decodeFields_eq_ok_iff`: A run is read exactly from its own bytes.
* `decodeFields_take_of_isPrefix`: A run that is cut between two fields is the
  run before the cut.
* `decodeFields_take_short`: A run that is cut within a field is too short.
* `field_runs_exact`: The whole account of runs and their bytes.
-/

namespace RoverDispatch

/-- What succeeds has succeeded step by step. -/
theorem exists_of_bind_eq_ok {ε α β : Type} {x : Except ε α} {f : α → Except ε β} {b : β}
    (h : x >>= f = .ok b) : ∃ a, x = .ok a ∧ f a = .ok b := by
  cases x with
  | error e => cases h
  | ok a => exact ⟨a, rfl, h⟩

theorem exists_of_map_eq_ok {ε α β : Type} {x : Except ε α} {f : α → β} {b : β}
    (h : x.map f = .ok b) : ∃ a, x = .ok a ∧ f a = b := by
  cases x with
  | error e => cases h
  | ok a => exact ⟨a, rfl, Except.ok.inj h⟩

/-- The answer that more bytes are needed than there are. -/
def IsTooShort {α : Type} (answer : Except WireError α) : Prop :=
  ∃ needed remaining, remaining < needed ∧ answer = .error (.tooShort needed remaining)

theorem IsTooShort.map {α β : Type} {answer : Except WireError α} (h : IsTooShort answer)
    (g : α → β) : IsTooShort (answer.map g) := by
  rcases h with ⟨needed, remaining, hlt, rfl⟩
  exact ⟨needed, remaining, hlt, rfl⟩

theorem IsTooShort.bind {α β : Type} {answer : Except WireError α} (h : IsTooShort answer)
    (g : α → Except WireError β) : IsTooShort (answer >>= g) := by
  rcases h with ⟨needed, remaining, hlt, rfl⟩
  exact ⟨needed, remaining, hlt, rfl⟩

namespace Field

variable {α β : Type} {f : Field} {bs rest : Bytes} {n : Nat}

/-- What is taken is as long as asked for and stands in front of the rest. -/
theorem takeBytes_eq_ok_iff {first : Bytes} :
    takeBytes n bs = .ok (first, rest) ↔ first.length = n ∧ bs = first ++ rest := by
  constructor
  · intro h
    simp only [takeBytes, List.length_take] at h
    split at h
    · cases h
    · cases h
      rw [List.length_take]
      exact ⟨by omega, (List.take_append_drop n bs).symm⟩
  · rintro ⟨hlen, rfl⟩
    exact takeBytes_append hlen rest

/-! ### Readers that see no further than the bytes they take -/

/-- A reader that sees no further than the bytes it takes: unless it asks for
    more bytes, its answer stays when more bytes follow, and these are left
    over with the rest. -/
def Streams (read : Bytes → Except WireError (α × Bytes)) : Prop :=
  ∀ bs more, IsTooShort (read bs) ∨
    read (bs ++ more) = (read bs).map (fun answer => (answer.1, answer.2 ++ more))

theorem streams_takeBytes (n : Nat) : Streams (takeBytes n) := by
  intro bs more
  by_cases hshort : bs.length < n
  · refine Or.inl ⟨n, bs.length, hshort, ?_⟩
    simp only [takeBytes, List.length_take, Nat.min_eq_right (Nat.le_of_lt hshort), if_pos hshort]
  · have hfirst : (bs.take n).length = n := by
      rw [List.length_take]
      omega
    have hbs : takeBytes n bs = .ok (bs.take n, bs.drop n) :=
      takeBytes_eq_ok_iff.2 ⟨hfirst, (List.take_append_drop n bs).symm⟩
    have hmore : takeBytes n (bs ++ more) = .ok (bs.take n, bs.drop n ++ more) :=
      takeBytes_eq_ok_iff.2 ⟨hfirst, by rw [← List.append_assoc, List.take_append_drop]⟩
    exact Or.inr (by rw [hbs, hmore, Except.map])

theorem streams_ok (a : α) : Streams (fun bs => .ok (a, bs)) :=
  fun _ _ => Or.inr rfl

theorem streams_error (e : WireError) : Streams (fun _ => (.error e : Except WireError (α × Bytes))) :=
  fun _ _ => Or.inr rfl

/-- Readers that follow one another see no further than each of them. -/
theorem Streams.bind {read : Bytes → Except WireError (α × Bytes)}
    {next : α × Bytes → Except WireError (β × Bytes)} (h : Streams read)
    (hnext : ∀ a, Streams (fun bs => next (a, bs))) : Streams (fun bs => read bs >>= next) := by
  intro bs more
  simp only
  rcases h bs more with hshort | hmore
  · exact Or.inl (hshort.bind next)
  · rw [hmore]
    cases read bs with
    | error e => exact Or.inr rfl
    | ok answer =>
        -- The second reader starts where the first one stopped, with more bytes or without.
        exact hnext answer.1 answer.2 more

/-- Reading a field sees no further than the field. -/
theorem streams_decode : Streams decode := by
  -- Reading takes a number of bytes, and which number depends only on what was taken before.
  refine (streams_takeBytes 2).bind fun nameLength => ?_
  refine (streams_takeBytes (Word.ofBe nameLength)).bind fun name => ?_
  simp only
  cases textOfBytes? name with
  | none => exact streams_error _
  | some name =>
      refine (streams_takeBytes 4).bind fun dataLength => ?_
      refine (streams_takeBytes (Word.ofBe dataLength)).bind fun data => ?_
      simp only
      refine (streams_takeBytes 4).bind fun place => ?_
      by_cases hplace : Word.ofBe (place.drop 2) ≤ Word.ofBe (place.take 2)
      · simp only [if_pos hplace]
        exact streams_error _
      · simp only [if_neg hplace]
        exact streams_ok _

/-! ### One field -/

/-- Bytes that are read as a field are its words, its name and its data one
    after another, and then the rest. -/
theorem exists_of_decode (h : decode bs = .ok (f, rest)) :
    ∃ nameLength dataLength place : Bytes,
      bs = nameLength ++ (textBytes f.name ++ (dataLength ++ (f.data ++ (place ++ rest)))) ∧
      (nameLength.length = 2 ∧ f.name.utf8ByteSize = Word.ofBe nameLength) ∧
      (dataLength.length = 4 ∧ f.data.length = Word.ofBe dataLength) ∧
      (place.length = 4 ∧ f.part = Word.ofBe (place.take 2) ∧
        f.total = Word.ofBe (place.drop 2)) ∧ f.part < f.total := by
  rcases exists_of_bind_eq_ok h with ⟨⟨nameLength, afterLength⟩, hnameLength, h⟩
  rcases exists_of_bind_eq_ok h with ⟨⟨nameBytes, afterName⟩, hnameBytes, h⟩
  simp only at h
  split at h
  · -- Each read takes its bytes from what the one before has left.
    rename_i name hname
    rcases exists_of_bind_eq_ok h with ⟨⟨dataLength, afterDataLength⟩, hdataLength, h⟩
    rcases exists_of_bind_eq_ok h with ⟨⟨data, afterData⟩, hdata, h⟩
    rcases exists_of_bind_eq_ok h with ⟨⟨place, afterPlace⟩, hplace, h⟩
    simp only at h
    split at h
    · cases h
    · rename_i hpart
      cases h
      rcases takeBytes_eq_ok_iff.1 hnameLength with ⟨hlen1, rfl⟩
      rcases takeBytes_eq_ok_iff.1 hnameBytes with ⟨hlen2, rfl⟩
      rcases takeBytes_eq_ok_iff.1 hdataLength with ⟨hlen3, rfl⟩
      rcases takeBytes_eq_ok_iff.1 hdata with ⟨hlen4, rfl⟩
      rcases takeBytes_eq_ok_iff.1 hplace with ⟨hlen5, rfl⟩
      have htext := textBytes_of_textOfBytes? hname
      refine ⟨nameLength, dataLength, place, by rw [htext], ⟨hlen1, ?_⟩, ⟨hlen3, hlen4⟩,
        ⟨hlen5, rfl, rfl⟩, Nat.lt_of_not_le hpart⟩
      rw [← length_textBytes, htext, hlen2]
  · cases h

/-- A field is read exactly from its own bytes, and only if they can hold it. -/
theorem decode_eq_ok_iff : decode bs = .ok (f, rest) ↔ f.Fits ∧ bs = f.encode ++ rest := by
  constructor
  · intro h
    rcases exists_of_decode h with ⟨nameLength, dataLength, place, hbs, ⟨hlen1, hname⟩,
      ⟨hlen2, hdata⟩, ⟨hlen3, hpart, htotal⟩, hlt⟩
    have htake : (place.take 2).length = 2 := by
      rw [List.length_take, hlen3]
      rfl
    have hdrop : (place.drop 2).length = 2 := by rw [List.length_drop, hlen3]
    refine ⟨⟨?_, ?_, hlt, ?_⟩, ?_⟩
    · rw [hname]
      exact Word.ofBe_lt_of_length hlen1
    · rw [hdata]
      exact Word.ofBe_lt_of_length hlen2
    · rw [htotal]
      exact Word.ofBe_lt_of_length hdrop
    · -- Every word that was read is the word that is written.
      have hplace : Word.be 2 f.part ++ Word.be 2 f.total = place := by
        rw [hpart, htotal, Word.be_ofBe_of_length htake, Word.be_ofBe_of_length hdrop,
          List.take_append_drop]
      rw [hbs, encode, hname, hdata, Word.be_ofBe_of_length hlen1, Word.be_ofBe_of_length hlen2,
        hplace]
      simp only [List.append_assoc]
  · rintro ⟨hf, rfl⟩
    exact decode_encode hf rest

/-- A field that is cut is too short: could a part of it be read or refused
    otherwise, the whole of it would be. -/
theorem decode_take (h : f.Fits) (hn : n < f.encode.length) :
    IsTooShort (decode (f.encode.take n)) := by
  rcases streams_decode (f.encode.take n) (f.encode.drop n) with hshort | hmore
  · exact hshort
  · exfalso
    have hwhole := decode_encode h []
    rw [List.append_nil, ← List.take_append_drop n f.encode, hmore] at hwhole
    rcases exists_of_map_eq_ok hwhole with ⟨⟨g, left⟩, -, hanswer⟩
    -- The bytes behind the cut would be left over.
    have hleft : left ++ f.encode.drop n = [] := (Prod.mk.inj hanswer).2
    have hdrop := congrArg List.length (List.append_eq_nil_iff.1 hleft).2
    rw [List.length_drop, List.length_nil] at hdrop
    omega

end Field

/-! ### Runs -/

section Runs

variable {fields before : List Field} {bs : Bytes} {n : Nat}

theorem decodeFields_of_error {e : WireError} (hne : bs ≠ []) (h : Field.decode bs = .error e) :
    decodeFields bs = .error e := by
  rw [decodeFields, if_neg hne]
  split
  · rename_i e' he
    rw [h] at he
    cases he
    rfl
  · rename_i hok
    rw [h] at hok
    cases hok

/-- A run is read exactly from its own bytes, and only if they can hold it. -/
theorem decodeFields_eq_ok_iff :
    decodeFields bs = .ok fields ↔ (∀ f ∈ fields, f.Fits) ∧ encodeFields fields = bs := by
  constructor
  · intro h
    fun_induction decodeFields bs generalizing fields with
    | case1 =>
        cases h
        exact ⟨List.forall_mem_nil _, rfl⟩
    | case2 bs hne e he => cases h
    -- A field and the run behind it, which is shorter.
    | case3 bs hne first rest hfirst ih =>
        rcases exists_of_bind_eq_ok h with ⟨others, hothers, h⟩
        cases h
        rcases Field.decode_eq_ok_iff.1 hfirst with ⟨hfits, rfl⟩
        rcases ih hothers with ⟨hall, rfl⟩
        exact ⟨List.forall_mem_cons.2 ⟨hfits, hall⟩, encodeFields_cons first others⟩
  · rintro ⟨hfits, rfl⟩
    exact decodeFields_encodeFields hfits

/-- The bytes of a run start with those of the fields in front. -/
theorem take_encodeFields (h : before <+: fields) :
    (encodeFields fields).take (encodeFields before).length = encodeFields before := by
  rcases h with ⟨after, rfl⟩
  rw [encodeFields_append, List.take_left]

/-- A run that is cut between two fields is the run before the cut. -/
theorem decodeFields_take_of_isPrefix (h : ∀ f ∈ fields, f.Fits) (hbefore : before <+: fields) :
    decodeFields ((encodeFields fields).take (encodeFields before).length) = .ok before := by
  rw [take_encodeFields hbefore]
  exact decodeFields_encodeFields (fun f hf => h f (hbefore.subset hf))

/-- A run that is cut within a field is too short. -/
theorem decodeFields_take_short (h : ∀ f ∈ fields, f.Fits)
    (hn : n < (encodeFields fields).length)
    (hcut : ∀ before, before <+: fields → (encodeFields before).length ≠ n) :
    IsTooShort (decodeFields ((encodeFields fields).take n)) := by
  -- The fields before the cut are read one by one, so the cut moves towards the front.
  induction fields generalizing n with
  | nil => exact absurd hn (Nat.not_lt_zero n)
  | cons f fields ih =>
      rcases List.forall_mem_cons.1 h with ⟨hf, hfields⟩
      by_cases hlt : n < f.encode.length
      · have hpos : n ≠ 0 := fun h0 => hcut [] List.nil_prefix h0.symm
        have hne : f.encode.take n ≠ [] := by
          rw [Ne, List.take_eq_nil_iff, not_or]
          exact ⟨hpos, f.encode_ne_nil⟩
        rcases Field.decode_take hf hlt with ⟨needed, remaining, hless, hshort⟩
        rw [encodeFields_cons, List.take_append_of_le_length (Nat.le_of_lt hlt)]
        exact ⟨needed, remaining, hless, decodeFields_of_error hne hshort⟩
      · obtain ⟨k, rfl⟩ := Nat.exists_eq_add_of_le (Nat.le_of_not_lt hlt)
        rw [encodeFields_cons, List.length_append] at hn
        rw [encodeFields_cons, List.take_length_add_append, decodeFields_encode_append hf]
        refine (ih hfields (by omega) (fun before hbefore hlen => ?_)).map _
        refine hcut (f :: before) (List.prefix_cons_inj f |>.2 hbefore) ?_
        rw [encodeFields_cons, List.length_append, hlen]

end Runs

/-- Bytes and runs of fields correspond: bytes are read as a run exactly when
    every field of it fits and the bytes are what it is written as. A run that
    is cut short is read as the fields in front when the cut falls between two
    fields, and is too short when it falls within one. -/
theorem field_runs_exact :
    (∀ (bs : Bytes) (fields : List Field),
      decodeFields bs = .ok fields ↔ (∀ f ∈ fields, f.Fits) ∧ encodeFields fields = bs) ∧
    (∀ fields : List Field, (∀ f ∈ fields, f.Fits) → ∀ n < (encodeFields fields).length,
      (∀ before, before <+: fields → (encodeFields before).length = n →
        decodeFields ((encodeFields fields).take n) = .ok before) ∧
      ((∀ before, before <+: fields → (encodeFields before).length ≠ n) →
        IsTooShort (decodeFields ((encodeFields fields).take n)))) := by
  refine ⟨fun bs fields => decodeFields_eq_ok_iff, fun fields hfits n hn => ⟨?_, ?_⟩⟩
  · rintro before hbefore rfl
    exact decodeFields_take_of_isPrefix hfits hbefore
  · intro hcut
    exact decodeFields_take_short hfits hn hcut

/-- A whole field and a part of another one take sixteen and eighteen bytes.
    They are read back, a cut behind the first leaves the first, and a cut in
    the name of the second is seen. -/
theorem field_runs_exact_two :
    let corner : Field := ⟨"x1", [0x42, 0xc8, 0, 0], 0, 1⟩
    let task : Field := ⟨"tarefa", [0xc3, 0xa1], 2, 3⟩
    let bytes := encodeFields [corner, task]
    (∀ f ∈ [corner, task], f.Fits) ∧ bytes.length = 34 ∧
      decodeFields bytes = .ok [corner, task] ∧ decodeFields (bytes.take 16) = .ok [corner] ∧
      IsTooShort (decodeFields (bytes.take 20)) := by
  intro corner task bytes
  have hfits : ∀ f ∈ [corner, task], f.Fits := by decide +kernel
  have hlen : bytes.length = 34 := by decide +kernel
  have hcuts : ∀ before ∈ [corner, task].inits, (encodeFields before).length ≠ 20 := by
    decide +kernel
  have hshort := field_runs_exact.2 [corner, task] hfits
  refine ⟨hfits, hlen, (field_runs_exact.1 bytes [corner, task]).2 ⟨hfits, rfl⟩, ?_, ?_⟩
  · exact (hshort 16 (by rw [hlen]; decide)).1 [corner] ⟨[task], rfl⟩ (by decide +kernel)
  · refine (hshort 20 (by rw [hlen]; decide)).2 (fun before hbefore => ?_)
    exact hcuts before ((List.mem_inits _ _).2 hbefore)

end RoverDispatch
