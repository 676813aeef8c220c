/-!
# Single-Precision Numbers

Positions, battery levels and percentages as the words that carry them.

A coordinate crosses the wire as the 32 bits of a single-precision number and
must come out as the same 32 bits, whichever of the many not-a-numbers it may
be. The type is therefore the word itself, with equality of words; two zeros
of different sign are different values here, as they are on the wire.
Arithmetic decodes both words, rounds one exact result to nearest, and encodes
it again, so every operation is correctly rounded on its own and nothing is
carried in a wider format from one operation to the next.

The comparisons are those of numbers, not of words: nothing is ordered beside
a not-a-number, and the two zeros are equal.

## Main definitions

* `Single`: A single-precision number, by its bits.
* `Single.isFinite`: Neither an infinity nor a not-a-number.
* `Single.hypot`: The length of a vector, through a double-precision root.
* `Single.atMost`, `Single.atLeast`, `Single.within`: Limits on a value.
* `Single.ofNat`: The nearest single-precision number.
-/

namespace RoverDispatch

/-- A single-precision number, given by its bits. -/
structure Single where
  bits : UInt32
  deriving DecidableEq, Inhabited

namespace Single

/-- The sign bit is set. -/
def isNegative (x : Single) : Bool := x.bits ≥ 0x80000000

/-- The eight exponent bits. -/
def exponentField (x : Single) : Nat := x.bits.toNat / 0x800000 % 0x100

/-- The twenty-three fraction bits. -/
def fractionField (x : Single) : Nat := x.bits.toNat % 0x800000

/-- Neither an infinity nor a not-a-number. -/
def isFinite (x : Single) : Bool := x.exponentField ≠ 255

/-- A not-a-number: the exponent of an infinity with a fraction beside it. -/
def isNaN (x : Single) : Bool := x.exponentField = 255 ∧ x.fractionField ≠ 0

/-- An infinity of either sign. -/
def isInfinite (x : Single) : Bool := x.exponentField = 255 ∧ x.fractionField = 0

/-- The number that a word stands for. -/
def toFloat32 (x : Single) : Float32 := Float32.ofBits x.bits

/-- The word of a number. -/
def ofFloat32 (x : Float32) : Single := ⟨x.toBits⟩

/-- The single-precision number nearest to a natural number, ties to even. -/
def ofNat (n : Nat) : Single := ofFloat32 n.toUInt64.toFloat32

/-- The single-precision number nearest to a double-precision one. -/
def ofFloat (x : Float) : Single := ofFloat32 x.toFloat32

/-- The positive zero. -/
def zero : Single := ⟨0⟩

/-- One. -/
def one : Single := ⟨0x3f800000⟩

/-- Two. -/
def two : Single := ⟨0x40000000⟩

/-- One hundred, the full battery and the finished mission. -/
def hundred : Single := ⟨0x42c80000⟩

instance : Add Single := ⟨fun x y => ofFloat32 (x.toFloat32 + y.toFloat32)⟩

instance : Sub Single := ⟨fun x y => ofFloat32 (x.toFloat32 - y.toFloat32)⟩

instance : Mul Single := ⟨fun x y => ofFloat32 (x.toFloat32 * y.toFloat32)⟩

instance : Div Single := ⟨fun x y => ofFloat32 (x.toFloat32 / y.toFloat32)⟩

/-- The number with the other sign. -/
def negate (x : Single) : Single := ⟨x.bits ^^^ 0x80000000⟩

/-- Numerically smaller; false beside a not-a-number. -/
def below (x y : Single) : Bool := x.toFloat32 < y.toFloat32

/-- Numerically greater or equal; false beside a not-a-number. -/
def reaches (x y : Single) : Bool := y.toFloat32 ≤ x.toFloat32

/-- The smaller of a value and a limit; the limit for a not-a-number. -/
def atMost (limit x : Single) : Single := if x.below limit then x else limit

/-- The greater of a value and a limit; the limit for a not-a-number. -/
def atLeast (limit x : Single) : Single := if limit.below x then x else limit

/-- The value moved into an interval; a not-a-number stays what it is. -/
def within (low high x : Single) : Single :=
  if x.below low then low else if high.below x then high else x

/-- The length of the vector with the given components: infinite as soon as
    one component is, otherwise the double-precision root of the sum of the
    squares, rounded once to single precision. -/
def hypot (x y : Single) : Single :=
  if x.isInfinite || y.isInfinite then ⟨0x7f800000⟩
  else
    let a := x.toFloat32.toFloat
    let b := y.toFloat32.toFloat
    ofFloat (a * a + b * b).sqrt

end Single

end RoverDispatch
