/-!
# Big-Endian Words

Fixed-width numbers as bytes, most significant byte first.

Every number of the wire format is a word of one, two, four or eight bytes.
One pair of functions serves all widths: `be w n` writes the last `w` bytes of
a number and drops what lies above, `ofBe` reads any number of bytes. Lengths
and counts are read as natural numbers and signed values through two's
complement, so nothing about a width is repeated per type.

## Main definitions

* `Bytes`: A sequence of bytes.
* `Word.be`: A natural number in a given number of bytes.
* `Word.ofBe`: The number that bytes stand for.
* `Word.size`: How many words of a given number of bytes there are.
* `Word.ofSigned`, `Word.toSigned`: Two's complement in a given width.

## Theorems

* `Word.length_be`: A word has its width.
* `Word.ofBe_be`: Writing and reading keeps a number up to its width.
* `Word.be_ofBe`: Reading and writing keeps every byte.
* `Word.toSigned_ofSigned`: A signed number in range survives its word.
-/

namespace RoverDispatch

/-- A sequence of bytes. -/
abbrev Bytes := List UInt8

namespace Word

/-- The last `w` bytes of a number, most significant first. -/
def be : Nat → Nat → Bytes
  | 0, _ => []
  | w + 1, n => be w (n / 256) ++ [UInt8.ofNat n]

/-- The number that bytes stand for, most significant first. -/
def ofBe (bs : Bytes) : Nat := bs.foldl (fun n b => n * 256 + b.toNat) 0

/-- How many words of `w` bytes there are. -/
def size (w : Nat) : Nat := Nat.pow 256 w

/-- A signed number as a word of `w` bytes, by two's complement. -/
def ofSigned (w : Nat) (i : Int) : Nat := (i % size w).toNat

/-- The signed number that a word of `w` bytes stands for. -/
def toSigned (w : Nat) (n : Nat) : Int :=
  if 2 * n < size w then n else (n : Int) - size w

/-- The signed numbers that a word of `w` bytes holds. -/
def InRange (w : Nat) (i : Int) : Prop :=
  -(size w : Int) ≤ 2 * i ∧ 2 * i < size w

instance (w : Nat) (i : Int) : Decidable (InRange w i) :=
  inferInstanceAs (Decidable (_ ∧ _))

theorem size_succ (w : Nat) : size (w + 1) = size w * 256 := rfl

theorem size_two : size 2 = 0x10000 := rfl

theorem size_four : size 4 = 0x100000000 := rfl

theorem size_pos (w : Nat) : 0 < size w := Nat.pow_pos (by decide)

@[simp]
theorem length_be (w n : Nat) : (be w n).length = w := by
  induction w generalizing n with
  | zero => rfl
  | succ w ih => simp [be, ih]

theorem ofBe_append_singleton (bs : Bytes) (b : UInt8) :
    ofBe (bs ++ [b]) = ofBe bs * 256 + b.toNat := by
  simp [ofBe, List.foldl_append]

theorem ofBe_be (w n : Nat) : ofBe (be w n) = n % size w := by
  induction w generalizing n with
  | zero => exact (Nat.mod_one n).symm
  | succ w ih =>
      have hb : (UInt8.ofNat n).toNat = n % 256 := by simp
      rw [be, ofBe_append_singleton, ih, hb, size_succ, Nat.mul_comm (size w) 256, Nat.mod_mul]
      omega

theorem ofBe_lt (bs : Bytes) : ofBe bs < size bs.length := by
  -- The induction goes over the bytes with the number read so far, which is in range.
  have key : ∀ (bs : Bytes) (n k : Nat), n < size k →
      bs.foldl (fun n b => n * 256 + b.toNat) n < size (k + bs.length) := by
    intro bs
    induction bs with
    | nil => exact fun n k h => h
    | cons b bs ih =>
        intro n k h
        have hb : b.toNat < 256 := b.toNat_lt
        have := ih (n * 256 + b.toNat) (k + 1) (by rw [size_succ]; omega)
        rw [List.length_cons, show k + (bs.length + 1) = k + 1 + bs.length by omega]
        exact this
  have := key bs 0 0 (size_pos 0)
  rwa [Nat.zero_add] at this

theorem be_ofBe (bs : Bytes) : be bs.length (ofBe bs) = bs := by
  have key : ∀ (w : Nat) (bs : Bytes), bs.length = w → be w (ofBe bs) = bs := by
    intro w
    induction w with
    | zero => exact fun bs h => (List.length_eq_zero_iff.1 h).symm
    | succ w ih =>
        intro bs h
        have hne : bs ≠ [] := fun e => by simp [e] at h
        -- The last byte is the lowest, and it is written last.
        rw [← List.dropLast_concat_getLast hne, ofBe_append_singleton, be]
        have hb : (bs.getLast hne).toNat < 256 := (bs.getLast hne).toNat_lt
        have hdiv : (ofBe bs.dropLast * 256 + (bs.getLast hne).toNat) / 256
            = ofBe bs.dropLast := by omega
        rw [hdiv, ih bs.dropLast (by simp [h])]
        congr 2
        apply UInt8.toNat_inj.1
        simp
  exact key _ bs rfl

theorem ofBe_lt_of_length {w : Nat} {bs : Bytes} (h : bs.length = w) : ofBe bs < size w := by
  rw [← h]
  exact ofBe_lt bs

theorem be_ofBe_of_length {w : Nat} {bs : Bytes} (h : bs.length = w) : be w (ofBe bs) = bs := by
  rw [← h, be_ofBe]

theorem ofSigned_lt (w : Nat) (i : Int) : ofSigned w i < size w := by
  have hpos : (0 : Int) < size w := by exact_mod_cast size_pos w
  have h1 := Int.emod_nonneg i (Int.ne_of_gt hpos)
  have h2 := Int.emod_lt_of_pos i hpos
  simp only [ofSigned]
  omega

/-- A signed number in range survives its word. -/
theorem toSigned_ofSigned {w : Nat} {i : Int} (h : InRange w i) :
    toSigned w (ofSigned w i) = i := by
  unfold InRange at h
  unfold toSigned ofSigned
  generalize size w = N at h ⊢
  rcases h with ⟨hlo, hhi⟩
  by_cases hi : 0 ≤ i
  · rw [Int.emod_eq_of_lt hi (by omega)]
    split <;> omega
  · have hmod : i % (N : Int) = i + N := by
      rw [← Int.add_emod_right, Int.emod_eq_of_lt (by omega) (by omega)]
    rw [hmod]
    split <;> omega

/-- Two's complement of a word that was read is the word. -/
theorem ofSigned_toSigned {w n : Nat} (h : n < size w) : ofSigned w (toSigned w n) = n := by
  unfold toSigned ofSigned
  generalize size w = N at h ⊢
  split
  · rw [Int.emod_eq_of_lt (by omega) (by omega)]
    omega
  · rw [← Int.add_emod_right, Int.emod_eq_of_lt (by omega) (by omega)]
    omega

/-- A word that was read is in range. -/
theorem inRange_toSigned {w n : Nat} (h : n < size w) : InRange w (toSigned w n) := by
  unfold toSigned InRange
  generalize size w = N at h ⊢
  split <;> constructor <;> omega

end Word

end RoverDispatch
