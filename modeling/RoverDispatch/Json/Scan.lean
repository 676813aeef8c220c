/-!
# Scanning JSON

The first steps of reading JSON: errors, blanks and literal words.

A text is read from left to right by functions that take what is left of it
and answer with what is left afterwards. The first problem met decides, and it
has one of three kinds: the text is no JSON, it ends too early, or it is JSON
of another shape than the one asked for.

## Main definitions

* `JsonError`: The three kinds of problem.
* `Scanned`: A value and the rest of the text, or a problem.
* `dropBlanks`: The rest of the text behind blanks.
* `scanWord`: A literal word.
-/

namespace RoverDispatch

/-- Why a text does not hold what was asked for. -/
inductive JsonError where
  /-- The text is no JSON. -/
  | syntactic
  /-- The text ends too early. -/
  | ended
  /-- The text holds JSON of another shape. -/
  | shape
  deriving DecidableEq, Inhabited

namespace Json

/-- A value and the rest of the text, or a problem. -/
abbrev Scanned (α : Type) := Except JsonError (α × List Char)

/-- The four blank characters of the format. -/
def isBlank (c : Char) : Bool := c = ' ' || c = '\t' || c = '\n' || c = '\r'

/-- The rest of the text behind blanks. -/
def dropBlanks (text : List Char) : List Char := text.dropWhile isBlank

/-- The rest of the text behind the rest of a literal word. -/
def scanWord : List Char → List Char → Except JsonError (List Char)
  | [], text => .ok text
  | _ :: _, [] => .error .ended
  | w :: word, c :: text => if c = w then scanWord word text else .error .syntactic

/-- The value of a decimal digit. -/
def digit (c : Char) : Nat := c.toNat - '0'.toNat

/-- The text starts with a decimal digit. -/
def startsWithDigit (text : List Char) : Bool := text.head?.any Char.isDigit

end Json

end RoverDispatch
