import RoverDispatch.Json.Scan
import RoverDispatch.Numeric.Single

/-!
# JSON Numbers

Numbers as they stand in a text.

A number without a fraction and without an exponent is a whole number as long
as sixty-four bits hold it. Any other number is read in double precision: its
first digits, as many as sixty-four bits hold, are rounded, and the result is
multiplied or divided once by a power of ten. That is off by a little now and
then, and it is part of the format which double comes out. A number too large
for double precision is no number.

Negative zero is not a whole number.

## Main definitions

* `Number`: A whole number of either sign, or a double.
* `scanNumber`: A number behind its sign.
* `skipNumber`: The same when the value does not matter.
-/

namespace RoverDispatch.Json

/-- A number as it stands in a text: natural, the negative of a natural
    number, or anything else in double precision. -/
inductive Number where
  | natural (n : Nat)
  | negative (n : Nat)
  | double (x : Float)

/-- The largest number that the digits of a number are collected into. -/
def maxDigits : Nat := 0xffffffffffffffff

/-- The number continued by the digits that follow as long as it stays within
    the limit, how many were taken, and the rest of the text. -/
def takeDigits (n count : Nat) : List Char → Nat × Nat × List Char
  | [] => (n, count, [])
  | c :: text =>
    if c.isDigit && n * 10 + digit c ≤ maxDigits then
      takeDigits (n * 10 + digit c) (count + 1) text
    else (n, count, c :: text)

/-- A power of ten in double precision. -/
def pow10 (n : Nat) : Float := Float.ofScientific 1 false n

/-- The product of a number and a power of ten; what is too small even for
    two divisions is zero. -/
def scale (significand : Nat) (exponent : Int) : Except JsonError Float :=
  let f := significand.toUInt64.toFloat
  if 308 < exponent then
    if significand = 0 then .ok f else .error .syntactic
  else if 0 ≤ exponent then
    let product := f * pow10 exponent.toNat
    if product.isInf then .error .syntactic else .ok product
  else if -308 ≤ exponent then .ok (f / pow10 (-exponent).toNat)
  else if -616 ≤ exponent then .ok (f / pow10 308 / pow10 (-exponent - 308).toNat)
  else .ok 0

/-- A double with a sign. -/
def signed (positive : Bool) (f : Float) : Number := .double (if positive then f else -f)

/-- The number with a significand and an exponent in front of the text. -/
def finish (positive : Bool) (significand : Nat) (exponent : Int) (text : List Char) :
    Scanned Number :=
  (scale significand exponent).map (fun f => (signed positive f, text))

/-- The sign of an exponent, negative or not, and the rest of the text. -/
def exponentSign : List Char → Bool × List Char
  | '-' :: text => (true, text)
  | '+' :: text => (false, text)
  | text => (false, text)

/-- The exponent behind its letter. -/
def scanExponent (positive : Bool) (significand : Nat) (exponent : Int) (text : List Char) :
    Scanned Number :=
  let (negative, text) := exponentSign text
  match text with
  | [] => .error .ended
  | c :: _ =>
    if c.isDigit then
      let n : Nat := (text.takeWhile Char.isDigit).foldl (fun n c => n * 10 + digit c) 0
      finish positive significand (if negative then exponent - n else exponent + n)
        (text.dropWhile Char.isDigit)
    else .error .syntactic

/-- An exponent, if there is one. -/
def scanTail (positive : Bool) (significand : Nat) (exponent : Int) : List Char →
    Scanned Number
  | 'e' :: text => scanExponent positive significand exponent text
  | 'E' :: text => scanExponent positive significand exponent text
  | text => finish positive significand exponent text

/-- The fraction behind its point. Digits beyond the limit do not count. -/
def scanFraction (positive : Bool) (significand : Nat) (exponent : Int) (text : List Char) :
    Scanned Number :=
  if startsWithDigit text then
    let (significand, count, text) := takeDigits significand 0 text
    scanTail positive significand (exponent - count) (text.dropWhile Char.isDigit)
  else .error (if text = [] then .ended else .syntactic)

/-- A whole number. -/
def whole (positive : Bool) (n : Nat) : Number :=
  if positive then .natural n
  else if 0 < n ∧ n ≤ 0x8000000000000000 then .negative n
  else signed false n.toUInt64.toFloat

/-- What follows the first digits of a number. -/
def scanRest (positive : Bool) (n : Nat) : List Char → Scanned Number
  | '.' :: text => scanFraction positive n 0 text
  | 'e' :: text => scanExponent positive n 0 text
  | 'E' :: text => scanExponent positive n 0 text
  | text => .ok (whole positive n, text)

/-- What follows the first digits of a number that has more of them than
    count. -/
def scanLong (positive : Bool) (n : Nat) (text : List Char) : Scanned Number :=
  let dropped : Int := (text.takeWhile Char.isDigit).length
  match text.dropWhile Char.isDigit with
  | '.' :: text => scanFraction positive n dropped text
  | text => scanTail positive n dropped text

/-- A number behind its sign. A zero in front stands alone. -/
def scanNumber (positive : Bool) : List Char → Scanned Number
  | [] => .error .ended
  | c :: text =>
    if c = '0' then
      if startsWithDigit text then .error .syntactic else scanRest positive 0 text
    else if c.isDigit then
      let (n, _, text) := takeDigits (digit c) 1 text
      if startsWithDigit text then scanLong positive n text else scanRest positive n text
    else .error .syntactic

/-- The text behind at least one digit. -/
def skipDigits (text : List Char) : Except JsonError (List Char) :=
  if startsWithDigit text then .ok (text.dropWhile Char.isDigit) else .error .syntactic

/-- The text behind an exponent, if there is one. -/
def skipExponent : List Char → Except JsonError (List Char)
  | 'e' :: text => skipDigits (exponentSign text).2
  | 'E' :: text => skipDigits (exponentSign text).2
  | text => .ok text

/-- The text behind a number whose value does not matter. -/
def skipNumber (text : List Char) : Except JsonError (List Char) := do
  let rest ← skipDigits text
  if text.head? = some '0' ∧ startsWithDigit text.tail then .error .syntactic
  else
    match rest with
    | '.' :: rest => skipDigits rest >>= skipExponent
    | rest => skipExponent rest

/-- The number in single precision. -/
def Number.toSingle : Number → Single
  | natural n => .ofNat n
  | negative n => (Single.ofNat n).negate
  | double x => .ofFloat x

/-- The whole number, if it is one. -/
def Number.toInt? : Number → Option Int
  | natural n => some n
  | negative n => some (-n)
  | double _ => none

end RoverDispatch.Json
