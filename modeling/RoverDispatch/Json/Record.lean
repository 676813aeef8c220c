import RoverDispatch.Json.Shape
import RoverDispatch.Json.Skip

/-!
# Records in JSON

Objects with known keys, and lists of them.

A record is described by its columns: the keys, the shapes of their values,
and the values of keys that may be left out. It is written as an object, in
which keys come in any order and unknown ones are skipped, or as a list of all
values in the order of the columns. A key that comes twice, or that is missing
without a value to take its place, makes it another shape.

## Main definitions

* `Column`: A key with its shape.
* `Row`: The values of all columns.
* `scanRecord`: A record.
* `scanList`: A list of values.
* `readAll`: A text that holds one value and nothing else.
-/

namespace RoverDispatch.Json

/-- A key with the shape of its value, and the value it has when it is left
    out, if it may be. -/
structure Column where
  key : String
  shape : Shape
  absent : Option shape.Value := none

/-- The values of all columns. -/
@[reducible]
def Row : List Column → Type
  | [] => Unit
  | c :: cs => c.shape.Value × Row cs

/-- The values of the columns that have been read. -/
def Cells : List Column → Type
  | [] => Unit
  | c :: cs => Option c.shape.Value × Cells cs

/-- No column has been read. -/
def Cells.empty : (cs : List Column) → Cells cs
  | [] => ()
  | _ :: cs => (none, Cells.empty cs)

/-- The text behind the colon of a key. -/
def scanColon (text : List Char) : Except JsonError (List Char) :=
  match dropBlanks text with
  | [] => .error .ended
  | ':' :: text => .ok text
  | _ => .error .syntactic

/-- The value of a key, put into its column. A second value is refused before
    it is read. -/
def scanCell (key : String) : (cs : List Column) → Cells cs → List Char → Scanned (Cells cs)
  | [], cells, text => (scanColon text >>= skipValue).map (cells, ·)
  | c :: cs, (value, cells), text =>
    if c.key = key then
      match value with
      | some _ => .error .shape
      | none =>
        match scanColon text >>= c.shape.scan with
        | .error e => .error e
        | .ok (v, rest) => .ok ((some v, cells), rest)
    else
      match scanCell key cs cells text with
      | .error e => .error e
      | .ok (cells, rest) => .ok ((value, cells), rest)

/-- The row of all columns, those that were not read having the values that
    take their place. -/
def Cells.row : (cs : List Column) → Cells cs → Except JsonError (Row cs)
  | [], _ => .ok ()
  | c :: cs, (value, cells) =>
    match value.or c.absent with
    | none => .error .shape
    | some v =>
      match Cells.row cs cells with
      | .error e => .error e
      | .ok row => .ok (v, row)

/-- What comes next in a list or an object. -/
inductive Item where
  /-- Its end, which is still in the text. -/
  | close
  | item
  deriving DecidableEq, Inhabited

/-- What comes next in a list or an object that is closed by `close`. A comma
    stands between items and nowhere else. -/
def scanItem (close : Char) (first : Bool) (text : List Char) : Scanned Item :=
  match dropBlanks text with
  | [] => .error .ended
  | c :: rest =>
    if c = close then .ok (.close, c :: rest)
    else if first then .ok (.item, c :: rest)
    else if c = ',' then
      match dropBlanks rest with
      | [] => .error .ended
      | d :: rest => if d = close then .error .syntactic else .ok (.item, d :: rest)
    else .error .syntactic

/-- The members of an object from here on, at most so many. -/
def scanMembers (cs : List Column) : Nat → Bool → Cells cs → List Char → Scanned (Row cs)
  | 0, _, _, _ => .error .ended
  | n + 1, first, cells, text =>
    match scanItem '\x7d' first text with
    | .error e => .error e
    | .ok (.close, rest) => (cells.row cs).map (·, rest.tail)
    | .ok (.item, '"' :: rest) =>
      match scanString true [] rest with
      | .error e => .error e
      | .ok (key, rest) =>
        match scanCell key cs cells rest with
        | .error e => .error e
        | .ok (cells, rest) => scanMembers cs n false cells rest
    | .ok (.item, _) => .error .syntactic

/-- The values of a record that is written as a list, up to its end. -/
def scanPositions : (cs : List Column) → Bool → List Char → Scanned (Row cs)
  | [], _, text => .ok ((), text)
  | c :: cs, first, text =>
    match scanItem ']' first text with
    | .error e => .error e
    | .ok (.item, rest) =>
      match c.shape.scan rest with
      | .error e => .error e
      | .ok (v, rest) =>
        match scanPositions cs false rest with
        | .error e => .error e
        | .ok (row, rest) => .ok ((v, row), rest)
    | .ok (.close, rest) => (Cells.row (c :: cs) (Cells.empty (c :: cs))).map (·, rest)

/-- The end of a list all of whose values have been read. -/
def scanClose (text : List Char) : Except JsonError (List Char) :=
  match dropBlanks text with
  | [] => .error .ended
  | ']' :: rest => .ok rest
  | _ => .error .syntactic

/-- A record. -/
def scanRecord (cs : List Column) (text : List Char) : Scanned (Row cs) :=
  match dropBlanks text with
  | [] => .error .ended
  | '\x7b' :: rest => scanMembers cs (rest.length + 1) true (Cells.empty cs) rest
  | '[' :: rest =>
    match scanPositions cs true rest with
    | .error e => .error e
    | .ok (row, rest) => (scanClose rest).map (row, ·)
  | text => .error (refuse text)

/-- The items of a list from here on, at most so many; `before` holds those
    already read, the latest first. -/
def scanItems {α : Type} (scan : List Char → Scanned α) :
    Nat → Bool → List α → List Char → Scanned (List α)
  | 0, _, _, _ => .error .ended
  | n + 1, first, before, text =>
    match scanItem ']' first text with
    | .error e => .error e
    | .ok (.close, rest) => .ok (before.reverse, rest.tail)
    | .ok (.item, rest) =>
      match scan rest with
      | .error e => .error e
      | .ok (a, rest) => scanItems scan n false (a :: before) rest

/-- A list of values. -/
def scanList {α : Type} (scan : List Char → Scanned α) (text : List Char) : Scanned (List α) :=
  match dropBlanks text with
  | [] => .error .ended
  | '[' :: rest => scanItems scan (rest.length + 1) true [] rest
  | text => .error (refuse text)

/-- A text that holds one value and nothing else but blanks. -/
def readAll {α : Type} (scan : List Char → Scanned α) (text : String) : Except JsonError α :=
  match scan text.toList with
  | .error e => .error e
  | .ok (a, rest) => if dropBlanks rest = [] then .ok a else .error .syntactic

end RoverDispatch.Json
