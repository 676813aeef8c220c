import RoverDispatch.Numeric.Single

/-!
# Decimal Text of Single-Precision Numbers

Exact decimal readings of a word, in whole-number arithmetic.

A finite word is a whole significand times a power of two, so every decimal
question about it is a question about fractions of whole numbers, and none of
the answers below passes through a rounded operation. Two texts are needed. A
battery level is reported with one decimal, the exact value rounded half to
even. A stored number is written with the fewest digits that still lie in the
interval of reals that round to it, and among those the nearest; both ends of
the interval belong to it exactly when the significand is even.

Where the fewest digits stand relative to the point is a matter of layout and
kept apart: `Layout.stored` says which exponents are written positionally.

## Main definitions

* `Single.significand`, `Single.binaryExponent`: A finite word as a product.
* `roundHalfEven`: A fraction rounded to the nearest whole number.
* `Single.tenths`: The text with one decimal.
* `Single.shortest`: The fewest digits and their decimal exponent.
* `Layout`: Which exponents are written positionally.
* `Single.storedText`: The text of a finite number in a stored record.
-/

namespace RoverDispatch

/-- The fraction `num / den` rounded to the nearest whole number, halves to
    the even neighbour. -/
def roundHalfEven (num den : Nat) : Nat :=
  let q := num / den
  let r := num % den
  if 2 * r < den then q
  else if den < 2 * r then q + 1
  else q + q % 2

namespace Single

/-- The whole significand of a finite word. -/
def significand (x : Single) : Nat :=
  if x.exponentField = 0 then x.fractionField else 0x800000 + x.fractionField

/-- The power of two that the significand is multiplied by. -/
def binaryExponent (x : Single) : Int := (max x.exponentField 1 : Nat) - 150

/-- The text of a value with one decimal: the exact value rounded half to
    even, the sign bit kept even where the digits are all zero. -/
def tenths (x : Single) : String :=
  if x.isNaN then "NaN"
  else
    let sign := if x.isNegative then "-" else ""
    if x.isInfinite then sign ++ "inf"
    else
      let e := x.binaryExponent
      let n := roundHalfEven (10 * x.significand * Nat.pow 2 e.toNat) (Nat.pow 2 (-e).toNat)
      sign ++ toString (n / 10) ++ "." ++ toString (n % 10)

/-- The multiple of `10 ^ k` in the rounding interval of a positive value
    that is nearest to it, if the interval holds one. The value, the ends of
    the interval and the grid are measured in the same fraction of one. -/
def onGrid (m : Nat) (e : Int) (narrow : Bool) (k : Int) : Option Nat :=
  let unit := Nat.pow 2 (e - 2).toNat * Nat.pow 10 (-k).toNat
  let cell := Nat.pow 2 (2 - e).toNat * Nat.pow 10 k.toNat
  let value := 4 * m * unit
  let low := (4 * m - if narrow then 1 else 2) * unit
  let high := (4 * m + 2) * unit
  let inside (n : Nat) : Bool :=
    if m % 2 = 0 then low ≤ n * cell && n * cell ≤ high
    else low < n * cell && n * cell < high
  let n := value / cell
  match inside n, inside (n + 1) with
  | true, true => some (roundHalfEven value cell)
  | true, false => some n
  | false, true => some (n + 1)
  | false, false => none

/-- The decimal exponents at which a single-precision number can have its
    last digit, the coarsest first. -/
def gridExponents : List Int := (List.range 90).map (fun i : Nat => 38 - (i : Int))

/-- The fewest digits that read back as a positive value, and the power of
    ten of the last one. The interval is narrower below a power of two, where
    the words under the value are twice as dense. -/
def shortest (x : Single) : Nat × Int :=
  let m := x.significand
  let narrow := m = 0x800000 ∧ 1 < x.exponentField
  (gridExponents.findSome? (fun k =>
    (onGrid m x.binaryExponent narrow k).map (fun n => (n, k)))).getD (0, 0)

end Single

/-- The decimal exponents of the leading digit that are written positionally. -/
structure Layout where
  lowest : Int
  highest : Int

/-- Stored numbers are positional from a millionth up to thirteen whole
    digits. -/
def Layout.stored : Layout := ⟨-6, 12⟩

/-- The text of `digits * 10 ^ k`. Positional text has at least one digit on
    either side of the point; otherwise the leading digit is followed by a
    signed exponent, and by a point only where more digits follow. -/
def Layout.text (layout : Layout) (digits : Nat) (k : Int) : String :=
  let s := (Nat.toDigits 10 digits)
  let e := k + s.length - 1
  if layout.lowest ≤ e ∧ e ≤ layout.highest then
    if 0 ≤ k then String.ofList (s ++ List.replicate k.toNat '0' ++ ['.', '0'])
    else if 0 ≤ e then
      let whole := (e + 1).toNat
      String.ofList (s.take whole ++ '.' :: s.drop whole)
    else String.ofList ('0' :: '.' :: List.replicate (-e - 1).toNat '0' ++ s)
  else
    let tail := match s.drop 1 with
      | [] => []
      | more => '.' :: more
    let sign := if e < 0 then '-' else '+'
    String.ofList (s.take 1 ++ tail ++ 'e' :: sign :: Nat.toDigits 10 e.natAbs)

/-- The text of a finite number in a stored record. -/
def Single.storedText (x : Single) : String :=
  let sign := if x.isNegative then "-" else ""
  if x.significand = 0 then sign ++ "0.0"
  else sign ++ Layout.stored.text x.shortest.1 x.shortest.2

end RoverDispatch
