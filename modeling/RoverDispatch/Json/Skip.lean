import RoverDispatch.Json.Number
import RoverDispatch.Json.Quoted

/-!
# Skipping JSON

Values that stand in a text and do not matter.

A value behind an unknown key has to be a value, whatever it is. It is gone
through with a list of the lists and objects that are open, so that nothing
but the length of the text limits how deep they stand in each other.

## Main definitions

* `Frame`: A list or an object that is open.
* `skipValue`: The text behind a value.
-/

namespace RoverDispatch.Json

/-- A list or an object that is open. -/
inductive Frame where
  | list
  | object
  deriving DecidableEq, Inhabited

/-- The character that closes a list or an object. -/
def Frame.close : Frame → Char
  | list => ']'
  | object => '}'

/-- What may come next: a value, the first item of what was just opened or its
    end, or what follows a value. -/
inductive Expected where
  | value
  | first
  | next
  deriving DecidableEq, Inhabited

/-- The text behind the key of an item and its colon; the items of a list have
    no keys. -/
def skipKey : Frame → List Char → Except JsonError (List Char)
  | .list, text => .ok text
  | .object, text =>
    match dropBlanks text with
    | [] => .error .ended
    | '"' :: text => do
      let (_, text) ← scanString false [] text
      match dropBlanks text with
      | [] => .error .ended
      | ':' :: text => .ok text
      | _ => .error .syntactic
    | _ => .error .syntactic

/-- A list or an object is opened, or a value without items is passed. -/
def skipStart : List Char → Except JsonError (Option Frame × List Char)
  | [] => .error .ended
  | '[' :: text => .ok (some .list, text)
  | '\x7b' :: text => .ok (some .object, text)
  | '"' :: text => (scanString false [] text).map (fun r => (none, r.2))
  | 'n' :: text => (scanWord "ull".toList text).map (none, ·)
  | 't' :: text => (scanWord "rue".toList text).map (none, ·)
  | 'f' :: text => (scanWord "alse".toList text).map (none, ·)
  | '-' :: text => (skipNumber text).map (none, ·)
  | c :: text =>
    if c.isDigit then (skipNumber (c :: text)).map (none, ·) else .error .syntactic

/-- Go on with the frames that are open, at most so many steps. -/
def skipFrom : Nat → Expected → List Frame → List Char → Except JsonError (List Char)
  | 0, _, _, _ => .error .ended
  | _ + 1, .next, [], text => .ok text
  | n + 1, .value, frames, text => do
    let (opened, text) ← skipStart (dropBlanks text)
    match opened with
    | some f => skipFrom n .first (f :: frames) text
    | none => skipFrom n .next frames text
  | _ + 1, .first, [], text => .ok text
  | n + 1, .first, f :: frames, text =>
    match dropBlanks text with
    | [] => .error .ended
    | c :: rest =>
      if c = f.close then skipFrom n .next frames rest
      else do skipFrom n .value (f :: frames) (← skipKey f (c :: rest))
  | n + 1, .next, f :: frames, text =>
    match dropBlanks text with
    | [] => .error .ended
    | c :: rest =>
      if c = ',' then do skipFrom n .value (f :: frames) (← skipKey f rest)
      else if c = f.close then skipFrom n .next frames rest
      else .error .syntactic

/-- The text behind a value. Two steps for every character are enough. -/
def skipValue (text : List Char) : Except JsonError (List Char) :=
  skipFrom (2 * text.length + 2) .value [] text

end RoverDispatch.Json
