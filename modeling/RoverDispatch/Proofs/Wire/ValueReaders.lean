import Mathlib
import RoverDispatch.Proofs.Wire.Payloads

/-!
# Readers of Values

A reader accepts the bytes that its writer makes, and no others.

Every value has one form on the wire, so reading is settled by writing: bytes
are read as a value exactly when the value is one that words and prefixes can
hold and the bytes are the ones it is written as. For numbers this is two's
complement in both directions. For texts and lists it rests on the prefix. It
is a signed word, so a length that was read lies below half the range of the
word, where signed and unsigned agree, and the rest of the data has to be as
long as it says.

A table passes the data under a name to a reader and gives the name to
whatever is wrong with it. The law for tables is therefore the law for data,
and data that no value is written as is a malformed field of that name.

## Main definitions

* `Value.ReadsBack`: A reader accepts exactly what a writer makes.
* `FieldTable.Refuses`: The field of a name is malformed.
* `FieldTable.ReadsExactly`: The same for readers of a table.
* `Value.announced`: The signed number in front of a text or a list.

## Theorems

* `Value.readsBack_int` and its like: What each reader of data accepts.
* `Value.readCount_eq_ok_iff`: What is read as a prefix.
* `FieldTable.readsExactly_of_readsBack`: From data to tables.
* `FieldTable.readers_exact`: What each reader of a table accepts, and that it
  refuses everything else.
-/

namespace RoverDispatch

namespace Value

variable {α : Type} {data rest : Bytes} {n w : Nat}

/-- A reader accepts exactly what a writer makes of the values that fit. -/
def ReadsBack (read : Bytes → Except Defect α) (write : α → Bytes) (Fits : α → Prop) : Prop :=
  ∀ data value, read data = .ok value ↔ Fits value ∧ data = write value

/-! ### Numbers and truth values -/

theorem ofWidth_eq_ok_iff {word : Bytes} :
    ofWidth w data = .ok word ↔ data.length = w ∧ word = data := by
  rw [ofWidth]
  by_cases h : data.length = w
  · rw [if_pos h, Except.ok.injEq, and_iff_right h, eq_comm]
  · rw [if_neg h]
    refine iff_of_false (fun hword => ?_) (fun hword => h hword.1)
    cases hword

/-- The number that a word stands for is written as the word. -/
theorem int_toSigned (h : data.length = w) : int w (Word.toSigned w (Word.ofBe data)) = data := by
  rw [int, Word.ofSigned_toSigned (Word.ofBe_lt_of_length h), Word.be_ofBe_of_length h]

theorem readsBack_int (w : Nat) : ReadsBack (readInt w) (int w) (Word.InRange w) := by
  intro data i
  constructor
  · intro h
    refine ⟨of_readInt h, ?_⟩
    rcases exists_of_bind_eq_ok h with ⟨word, hword, hi⟩
    rcases ofWidth_eq_ok_iff.1 hword with ⟨hlen, rfl⟩
    cases hi
    exact (int_toSigned hlen).symm
  · rintro ⟨hi, rfl⟩
    exact readInt_int hi

theorem readsBack_single : ReadsBack readSingle single (fun _ => True) := by
  intro data x
  constructor
  · intro h
    rcases exists_of_bind_eq_ok h with ⟨word, hword, hx⟩
    rcases ofWidth_eq_ok_iff.1 hword with ⟨hlen, rfl⟩
    cases hx
    -- Four bytes are the bits of a number, all of them.
    have hbits : (UInt32.ofNat (Word.ofBe word)).toNat = Word.ofBe word :=
      UInt32.toNat_ofNat_of_lt' (Word.ofBe_lt_of_length hlen)
    exact ⟨trivial, by rw [single, hbits, Word.be_ofBe_of_length hlen]⟩
  · rintro ⟨-, rfl⟩
    exact readSingle_single x

theorem readsBack_bool : ReadsBack readBool bool (fun _ => True) := by
  intro data b
  constructor
  · intro h
    rcases exists_of_bind_eq_ok h with ⟨word, hword, hb⟩
    rcases ofWidth_eq_ok_iff.1 hword with ⟨-, rfl⟩
    refine ⟨trivial, ?_⟩
    -- Of all values of a byte only two are accepted, and both are written so.
    split at hb
    · cases hb
      rfl
    · cases hb
      rfl
    · cases hb
  · rintro ⟨-, rfl⟩
    exact readBool_bool b

/-! ### Texts and lists -/

/-- A prefix is read exactly from a word in the lower half of its range, with
    the rest of the data behind it. -/
theorem readCount_eq_ok_iff :
    readCount data = .ok (n, rest) ↔ 2 * n < Word.size 4 ∧ data = Word.be 4 n ++ rest := by
  constructor
  · intro h
    refine ⟨(of_readCount h).1, ?_⟩
    simp only [readCount] at h
    split at h
    · cases h
    · rename_i hlen
      split at h
      · cases h
      · rename_i hsigned
        cases h
        have hword : (data.take 4).length = 4 := by
          rw [List.length_take] at hlen ⊢
          omega
        -- A signed number that is not negative is the word itself.
        have hcount : (Word.toSigned 4 (Word.ofBe (data.take 4))).toNat =
            Word.ofBe (data.take 4) := by
          have hlt := Word.ofBe_lt_of_length hword
          rw [Word.toSigned] at hsigned ⊢
          split at hsigned <;> omega
        rw [hcount, Word.be_ofBe_of_length hword, List.take_append_drop]
  · rintro ⟨hn, rfl⟩
    exact readCount_append hn rest

theorem readsBack_text : ReadsBack readText text (fun s => s.utf8ByteSize ≤ 2 ^ 31 - 1) := by
  intro data s
  constructor
  · intro h
    refine ⟨Nat.le_sub_one_of_lt (of_readText h), ?_⟩
    rcases exists_of_bind_eq_ok h with ⟨⟨n, bytes⟩, hcount, hrest⟩
    rcases readCount_eq_ok_iff.1 hcount with ⟨-, rfl⟩
    simp only at hrest
    split at hrest
    · cases hrest
    · -- The length that was announced is that of the text.
      rename_i hlen
      split at hrest
      · rename_i s' hs
        cases hrest
        have hbytes := textBytes_of_textOfBytes? hs
        have hsize : s.utf8ByteSize = n := by
          rw [← length_textBytes, hbytes]
          exact Classical.not_not.1 hlen
        rw [text, hbytes, hsize]
      · cases hrest
  · rintro ⟨hs, rfl⟩
    exact readText_text (by rw [Word.size_four]; omega)

/-- Words one after another are split into the numbers they are written from. -/
theorem flatMap_splitInts (h : data.length % 4 = 0) :
    (splitInts data).flatMap (int 4) = data ∧ (splitInts data).length * 4 = data.length := by
  fun_induction splitInts data with
  | case1 a b c d rest ih =>
      simp only [List.length_cons] at h ⊢
      rcases ih (by omega) with ⟨hrest, hlen⟩
      have hword : int 4 (Word.toSigned 4 (Word.ofBe [a, b, c, d])) = [a, b, c, d] :=
        int_toSigned rfl
      rw [List.flatMap_cons, hrest, hword]
      exact ⟨rfl, by omega⟩
  | case2 data hshort =>
      -- A list whose length is a multiple of four is empty or has a word in front.
      rcases data with _ | ⟨a, _ | ⟨b, _ | ⟨c, _ | ⟨d, rest⟩⟩⟩⟩
      · exact ⟨rfl, rfl⟩
      · cases h
      · cases h
      · cases h
      · exact absurd rfl (hshort a b c d rest)

theorem readsBack_ints : ReadsBack readInts ints
    (fun is => is.length ≤ 2 ^ 31 - 1 ∧ ∀ i ∈ is, Word.InRange 4 i) := by
  intro data is
  constructor
  · intro h
    rcases of_readInts h with ⟨hlen, -, hrange⟩
    refine ⟨⟨Nat.le_sub_one_of_lt hlen, hrange⟩, ?_⟩
    rcases exists_of_bind_eq_ok h with ⟨⟨n, bytes⟩, hcount, hrest⟩
    rcases readCount_eq_ok_iff.1 hcount with ⟨-, rfl⟩
    simp only at hrest
    split at hrest
    · cases hrest
    · -- The bytes are as many as the words announced, so they can be cut into whole words.
      rename_i hbytes
      cases hrest
      rw [ne_eq, Classical.not_not] at hbytes
      have hwords : bytes.length % 4 = 0 := by omega
      rcases flatMap_splitInts hwords with ⟨hsplit, hsize⟩
      have hn : (splitInts bytes).length = n := by omega
      rw [ints, hsplit, hn]
  · rintro ⟨⟨hlen, hrange⟩, rfl⟩
    exact readInts_ints (by rw [Word.size_four]; omega) hrange

/-- The signed number in front of a text or a list. -/
def announced (data : Bytes) : Int := Word.toSigned 4 (Word.ofBe (data.take 4))

theorem announced_append (h : 2 * n < Word.size 4) (rest : Bytes) :
    announced (Word.be 4 n ++ rest) = n := by
  have hmod : n % Word.size 4 = n := Nat.mod_eq_of_lt (by omega)
  rw [announced, List.take_left' (Word.length_be 4 n), Word.ofBe_be, hmod, Word.toSigned, if_pos h]

/-- A text announces its length and nothing follows it. -/
theorem announced_text {s : String} (h : s.utf8ByteSize ≤ 2 ^ 31 - 1) :
    announced (text s) = s.utf8ByteSize ∧ (text s).length = 4 + s.utf8ByteSize ∧
      textOfBytes? ((text s).drop 4) = some s := by
  refine ⟨announced_append (by rw [Word.size_four]; omega) _, ?_, ?_⟩
  · rw [text, List.length_append, Word.length_be, length_textBytes]
  · rw [text, List.drop_left' (Word.length_be 4 _), textOfBytes?_textBytes]

/-- A list announces how many numbers it has and nothing follows them. -/
theorem announced_ints {is : List Int} (h : is.length ≤ 2 ^ 31 - 1) :
    announced (ints is) = is.length ∧ (ints is).length = 4 + is.length * 4 := by
  refine ⟨announced_append (by rw [Word.size_four]; omega) _, ?_⟩
  rw [ints, List.length_append, Word.length_be, length_flatMap_int]

end Value

/-! ### Tables -/

namespace FieldTable

variable {α : Type}

/-- The answer that the field of a name is malformed. -/
def Refuses (answer : Except WireError α) (name : String) : Prop :=
  ∃ defect, answer = .error (.malformedField name defect)

/-- A reader accepts exactly the data that a writer puts into a field for the
    values that fit. Any other data makes the field malformed. -/
def ReadsExactly (read : FieldTable → String → Except WireError α) (write : String → α → Field)
    (Fits : α → Prop) : Prop :=
  ∀ (t : FieldTable) (name : String) (data : Bytes), t.find? name = some data →
    (∀ value, read t name = .ok value ↔ Fits value ∧ data = (write name value).data) ∧
    ((∀ value, Fits value → data ≠ (write name value).data) → Refuses (read t name) name)

/-- Reading from a table is reading the data under the name. -/
theorem readsExactly_of_readsBack {reader : Bytes → Except Defect α} {write : α → Bytes}
    {Fits : α → Prop} (h : Value.ReadsBack reader write Fits) :
    ReadsExactly (fun t name => t.read name reader) (fun name value => ⟨name, write value, 0, 1⟩)
      Fits := by
  intro t name data hfind
  have hraw : t.raw name = .ok data := by rw [raw, hfind]
  cases hread : reader data with
  | ok result =>
      have hanswer : t.read name reader = .ok result := by
        simp only [read, hraw, bind, Except.bind, hread]
        rfl
      refine ⟨fun value => ?_, fun hnone => ?_⟩
      · simp only [hanswer, ← h data value, hread]
        rw [Except.ok.injEq, Except.ok.injEq]
      · rcases (h data result).1 hread with ⟨hfits, hdata⟩
        exact absurd hdata (hnone result hfits)
  -- If the data is not read, no value has been written so.
  | error defect =>
      have hanswer : t.read name reader = .error (.malformedField name defect) := by
        simp only [read, hraw, bind, Except.bind, hread]
      refine ⟨fun value => ?_, fun _ => ⟨defect, hanswer⟩⟩
      simp only [hanswer, ← h data value, hread, reduceCtorEq]

/-- Data without something that all written data has makes the field
    malformed. -/
theorem ReadsExactly.refuses {read : FieldTable → String → Except WireError α}
    {write : String → α → Field} {Fits : α → Prop} (h : ReadsExactly read write Fits)
    (P : Bytes → Prop) {t : FieldTable} {name : String} {data : Bytes}
    (hfind : t.find? name = some data) (hwritten : ∀ value, Fits value → P (write name value).data)
    (hdata : ¬ P data) : Refuses (read t name) name := by
  refine (h t name data hfind).2 (fun value hfits hvalue => hdata ?_)
  rw [hvalue]
  exact hwritten value hfits

/-- Each reader accepts exactly what its writer makes of a value that words and
    prefixes can hold, and the field is malformed otherwise. In particular it is
    malformed when the data has another width, when the number in front of a
    text or a list is negative or is not the length or count of all that
    follows, and when the bytes of a text are no text. -/
theorem readers_exact :
    (ReadsExactly int32 Field.int32 (Word.InRange 4) ∧
      ReadsExactly int64 Field.int64 (Word.InRange 8) ∧
      ReadsExactly single Field.single (fun _ => True) ∧
      ReadsExactly bool Field.bool (fun _ => True) ∧
      ReadsExactly text Field.text (fun s => s.utf8ByteSize ≤ 2 ^ 31 - 1) ∧
      ReadsExactly ints Field.ints
        (fun is => is.length ≤ 2 ^ 31 - 1 ∧ ∀ i ∈ is, Word.InRange 4 i)) ∧
    ∀ (t : FieldTable) (name : String) (data : Bytes), t.find? name = some data →
      (data.length ≠ 4 → Refuses (t.int32 name) name ∧ Refuses (t.single name) name) ∧
      (data.length ≠ 8 → Refuses (t.int64 name) name) ∧
      (data.length ≠ 1 → Refuses (t.bool name) name) ∧
      (Value.announced data < 0 → Refuses (t.text name) name ∧ Refuses (t.ints name) name) ∧
      ((data.length : Int) ≠ 4 + Value.announced data → Refuses (t.text name) name) ∧
      ((data.length : Int) ≠ 4 + Value.announced data * 4 → Refuses (t.ints name) name) ∧
      (textOfBytes? (data.drop 4) = none → Refuses (t.text name) name) := by
  have hint32 : ReadsExactly int32 Field.int32 (Word.InRange 4) :=
    readsExactly_of_readsBack (Value.readsBack_int 4)
  have hint64 : ReadsExactly int64 Field.int64 (Word.InRange 8) :=
    readsExactly_of_readsBack (Value.readsBack_int 8)
  have hsingle : ReadsExactly single Field.single (fun _ => True) :=
    readsExactly_of_readsBack Value.readsBack_single
  have hbool : ReadsExactly bool Field.bool (fun _ => True) :=
    readsExactly_of_readsBack Value.readsBack_bool
  have htext : ReadsExactly text Field.text (fun s => s.utf8ByteSize ≤ 2 ^ 31 - 1) :=
    readsExactly_of_readsBack Value.readsBack_text
  have hints : ReadsExactly ints Field.ints
      (fun is => is.length ≤ 2 ^ 31 - 1 ∧ ∀ i ∈ is, Word.InRange 4 i) :=
    readsExactly_of_readsBack Value.readsBack_ints
  refine ⟨⟨hint32, hint64, hsingle, hbool, htext, hints⟩, fun t name data hfind => ?_⟩
  -- Data that is refused lacks something that all written data has.
  refine ⟨fun hlen => ⟨?_, ?_⟩, fun hlen => ?_, fun hlen => ?_, fun hneg => ⟨?_, ?_⟩,
    fun hlen => ?_, fun hlen => ?_, fun hnone => ?_⟩
  · exact hint32.refuses (·.length = 4) hfind (fun i _ => Value.length_int 4 i) hlen
  · exact hsingle.refuses (·.length = 4) hfind (fun x _ => Word.length_be 4 x.bits.toNat) hlen
  · exact hint64.refuses (·.length = 8) hfind (fun i _ => Value.length_int 8 i) hlen
  · exact hbool.refuses (·.length = 1) hfind (fun b _ => rfl) hlen
  · refine htext.refuses (0 ≤ Value.announced ·) hfind (fun s hs => ?_) (Int.not_le.2 hneg)
    exact le_of_le_of_eq (Int.natCast_nonneg _) (Value.announced_text hs).1.symm
  · refine hints.refuses (0 ≤ Value.announced ·) hfind (fun is his => ?_) (Int.not_le.2 hneg)
    exact le_of_le_of_eq (Int.natCast_nonneg _) (Value.announced_ints his.1).1.symm
  · refine htext.refuses (fun data => (data.length : Int) = 4 + Value.announced data) hfind
      (fun s hs => ?_) hlen
    rcases Value.announced_text hs with ⟨hcount, hsize, -⟩
    rw [Field.text, hcount, hsize, Int.natCast_add]
    rfl
  · refine hints.refuses (fun data => (data.length : Int) = 4 + Value.announced data * 4) hfind
      (fun is his => ?_) hlen
    rcases Value.announced_ints his.1 with ⟨hcount, hsize⟩
    rw [Field.ints, hcount, hsize, Int.natCast_add, Int.natCast_mul]
    rfl
  · refine htext.refuses (fun data => textOfBytes? (data.drop 4) ≠ none) hfind (fun s hs => ?_)
      (not_not_intro hnone)
    exact Option.ne_none_iff_exists'.2 ⟨s, (Value.announced_text hs).2.2⟩

/-- A text with a letter of two bytes is read back. With a byte too many, or as
    a list, its field is malformed. -/
theorem readers_exact_text :
    let data := Value.text "água"
    let t : FieldTable := (((∅ : FieldTable).insert "tarefa" data).insert "nota" (data ++ [0]))
    t.find? "tarefa" = some data ∧ t.find? "nota" = some (data ++ [0]) ∧
      t.text "tarefa" = .ok "água" ∧ Refuses (t.text "nota") "nota" ∧
      Refuses (t.ints "tarefa") "tarefa" := by
  intro data t
  have htask : t.find? "tarefa" = some data := by decide +kernel
  have hnote : t.find? "nota" = some (data ++ [0]) := by decide +kernel
  have hread := (readers_exact.1.2.2.2.2.1 t "tarefa" data htask).1 "água"
  refine ⟨htask, hnote, hread.2 ⟨by decide +kernel, rfl⟩, ?_, ?_⟩
  · exact (readers_exact.2 t "nota" (data ++ [0]) hnote).2.2.2.2.1 (by decide +kernel)
  · exact (readers_exact.2 t "tarefa" data htask).2.2.2.2.2.1 (by decide +kernel)

end FieldTable

end RoverDispatch
