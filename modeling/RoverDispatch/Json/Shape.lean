import RoverDispatch.Json.Number
import RoverDispatch.Json.Quoted

/-!
# Shapes of Values

Reading a value that is expected to have a certain shape.

The shape is known before the first character is read, so a value of another
shape is refused where it begins. A list or an object in the place of a simple
value is refused at its bracket; a simple value of the wrong kind is read to
its end first, because it may turn out to be no value at all.

Whole numbers are accepted where a number is expected, but not the other way
round.

## Main definitions

* `Shape`: What a value is expected to be.
* `Shape.Value`: The values of a shape.
* `Shape.scan`: A value of a shape.
-/

namespace RoverDispatch.Json

/-- What a value is expected to be: a number in single precision, a string, a
    whole number between two bounds, or a value of some shape that may be
    null. -/
inductive Shape where
  | single
  | text
  | integer (low high : Int)
  | nullable (s : Shape)
  deriving DecidableEq, Inhabited

/-- The values of a shape. -/
@[reducible]
def Shape.Value : Shape → Type
  | single => Single
  | text => String
  | integer _ _ => Int
  | nullable s => Option s.Value

/-- A value of another shape than the expected one: the problem is the shape,
    unless the value is no value. -/
def refuse : List Char → JsonError
  | [] => .ended
  | '[' :: _ => .shape
  | '\x7b' :: _ => .shape
  | '"' :: text => after (scanString true [] text)
  | '-' :: text => after (scanNumber false text)
  | 'n' :: text => after (scanWord "ull".toList text)
  | 't' :: text => after (scanWord "rue".toList text)
  | 'f' :: text => after (scanWord "alse".toList text)
  | c :: text => if c.isDigit then after (scanNumber true (c :: text)) else .syntactic
where
  /-- The problem once the value has been read. -/
  after {α : Type} : Except JsonError α → JsonError
    | .error e => e
    | .ok _ => .shape

/-- A number of either sign. -/
def scanSigned : List Char → Scanned Number
  | '-' :: text => scanNumber false text
  | c :: text => if c.isDigit then scanNumber true (c :: text) else .error (refuse (c :: text))
  | [] => .error .ended

/-- A whole number between two bounds. -/
def scanInteger (low high : Int) (text : List Char) : Scanned Int :=
  match scanSigned text with
  | .error e => .error e
  | .ok (n, text) =>
    match n.toInt? with
    | some i => if low ≤ i ∧ i ≤ high then .ok (i, text) else .error .shape
    | none => .error .shape

namespace Shape

/-- A value of a shape, without blanks in front of it. -/
def scanHere : (s : Shape) → List Char → Scanned s.Value
  | single, input => (scanSigned input).map (fun r => (r.1.toSingle, r.2))
  | text, '"' :: input => scanString true [] input
  | text, input => .error (refuse input)
  | integer low high, input => scanInteger low high input
  | nullable _, 'n' :: input => (scanWord "ull".toList input).map (fun rest => (none, rest))
  | nullable s, input => (s.scanHere input).map (fun r => (some r.1, r.2))

/-- A value of a shape. -/
def scan (s : Shape) (text : List Char) : Scanned s.Value := s.scanHere (dropBlanks text)

/-- The shape of signed thirty-two-bit numbers. -/
@[reducible]
def int32 : Shape := integer (-0x80000000) 0x7fffffff

/-- The shape of signed sixty-four-bit numbers. -/
@[reducible]
def int64 : Shape := integer (-0x8000000000000000) 0x7fffffffffffffff

/-- The shape of unsigned thirty-two-bit numbers. -/
@[reducible]
def nat32 : Shape := integer 0 0xffffffff

/-- The shape of unsigned sixty-four-bit numbers. -/
@[reducible]
def nat64 : Shape := integer 0 0xffffffffffffffff

end Shape

end RoverDispatch.Json
