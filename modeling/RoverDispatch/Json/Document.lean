import RoverDispatch.Numeric.Decimal

/-!
# JSON Documents

Values to be written as JSON, and how they are written.

A document is written over several lines. Every item stands on a line of its
own, two blanks further in than the brackets around it; a list or an object
without items is a pair of brackets. Strings keep every character but the
quotation mark, the backslash and control characters. What is no finite number
is written as null.

## Main definitions

* `Document`: A value to be written.
* `Document.render`: The text of a document.
-/

namespace RoverDispatch

/-- A value to be written as JSON; members of an object stand in the order
    they are written. -/
inductive Document where
  | null
  | integer (n : Int)
  | single (x : Single)
  | text (s : String)
  | list (items : List Document)
  | object (members : List (String × Document))
  deriving Inhabited

namespace Document

/-- A value that may be missing. -/
def optional {α : Type} (f : α → Document) : Option α → Document
  | none => null
  | some a => f a

/-- A lowercase hexadecimal digit. -/
def hexDigit (n : Nat) : Char := Char.ofNat (if n < 10 then '0'.toNat + n else 'a'.toNat + n - 10)

/-- A character inside a string. -/
def escape (c : Char) : List Char :=
  match c with
  | '"' => ['\\', '"']
  | '\\' => ['\\', '\\']
  | '\x08' => ['\\', 'b']
  | '\x0c' => ['\\', 'f']
  | '\n' => ['\\', 'n']
  | '\r' => ['\\', 'r']
  | '\t' => ['\\', 't']
  | c =>
    if c < ' ' then ['\\', 'u', '0', '0', hexDigit (c.toNat / 16), hexDigit (c.toNat % 16)]
    else [c]

/-- A string with its quotation marks. -/
def quote (s : String) : String := String.ofList ('"' :: s.toList.flatMap escape ++ ['"'])

/-- A new line, indented by two blanks for every level. -/
def newLine (level : Nat) : String := String.ofList ('\n' :: List.replicate (2 * level) ' ')

mutual

/-- The text of a document whose brackets stand at a level. -/
def renderAt (level : Nat) : Document → String
  | null => "null"
  | integer n => toString n
  | single x => if x.isFinite then x.storedText else "null"
  | text s => quote s
  | list [] => "[]"
  | list (item :: items) =>
    "[" ++ newLine (level + 1) ++ renderAt (level + 1) item ++
      renderItems (level + 1) items ++ newLine level ++ "]"
  | object [] => "\x7b\x7d"
  | object ((key, value) :: members) =>
    "\x7b" ++ newLine (level + 1) ++ quote key ++ ": " ++ renderAt (level + 1) value ++
      renderMembers (level + 1) members ++ newLine level ++ "\x7d"

/-- The items of a list behind the first one. -/
def renderItems (level : Nat) : List Document → String
  | [] => ""
  | item :: items => "," ++ newLine level ++ renderAt level item ++ renderItems level items

/-- The members of an object behind the first one. -/
def renderMembers (level : Nat) : List (String × Document) → String
  | [] => ""
  | (key, value) :: members =>
    "," ++ newLine level ++ quote key ++ ": " ++ renderAt level value ++
      renderMembers level members

end

/-- The text of a document. -/
def render (d : Document) : String := renderAt 0 d

end Document

end RoverDispatch
