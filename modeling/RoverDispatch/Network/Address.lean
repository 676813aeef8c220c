/-!
# Socket Addresses

Addresses that datagrams are sent to, with their ports.

A version 4 address is four decimal numbers with points between them. A version
6 address is eight groups of up to four hexadecimal digits with colons between
them; the last two groups may be written as a version 4 address, and one run
of zero groups may be left out. With a port the version 6 address stands in
brackets, where a scope may follow it.

What is written is canonical: hexadecimal digits are small and without leading
zeros, the longest run of at least two zero groups is left out, the first one
if there are several, and a version 4 address inside a version 6 one is shown
as such.

## Main definitions

* `IpAddress`, `SocketAddress`: The addresses.
* `SocketAddress.ofText?`: The address that a text stands for.
* `SocketAddress.toText`: The text of an address.
-/

namespace RoverDispatch

/-- An address of either version, as four octets or as eight groups; a group
    has sixteen bits. -/
inductive IpAddress where
  | v4 (a b c d : UInt8)
  | v6 (groups : Vector UInt16 8) (scope : UInt32)
  deriving DecidableEq

/-- An address with a port. -/
structure SocketAddress where
  ip : IpAddress
  port : UInt16
  deriving DecidableEq

namespace SocketAddress

/-! ### Reading -/

/-- The value of a digit, decimal or hexadecimal. -/
def digit? (radix : Nat) (c : Char) : Option Nat :=
  let value :=
    if c.isDigit then some (c.toNat - '0'.toNat)
    else if 'a' ≤ c ∧ c ≤ 'f' then some (c.toNat - 'a'.toNat + 10)
    else if 'A' ≤ c ∧ c ≤ 'F' then some (c.toNat - 'A'.toNat + 10)
    else none
  value.filter (· < radix)

/-- A number: all the digits there are, and the rest of the text. -/
def readNumber (radix limit : Nat) (text : List Char) : Option (Nat × Nat × List Char) :=
  let digits := text.takeWhile (fun c => (digit? radix c).isSome)
  let value := digits.foldl (fun n c => n * radix + (digit? radix c).getD 0) 0
  if digits = [] ∨ limit < value then none
  else some (value, digits.length, text.drop digits.length)

/-- A character that has to stand here. -/
def readChar (c : Char) : List Char → Option (List Char)
  | [] => none
  | d :: text => if c = d then some text else none

/-- An octet: at most three digits, and no zero in front of others. -/
def readOctet (text : List Char) : Option (UInt8 × List Char) := do
  let (value, count, rest) ← readNumber 10 255 text
  if 3 < count ∨ (text.head? = some '0' ∧ 1 < count) then none
  else some (UInt8.ofNat value, rest)

/-- A version 4 address as its octets. -/
def readOctets (text : List Char) : Option ((UInt8 × UInt8 × UInt8 × UInt8) × List Char) := do
  let (a, text) ← readOctet text
  let (b, text) ← readOctet (← readChar '.' text)
  let (c, text) ← readOctet (← readChar '.' text)
  let (d, text) ← readOctet (← readChar '.' text)
  some ((a, b, c, d), text)

/-- A group: at most four digits. -/
def readGroup (text : List Char) : Option (UInt16 × List Char) := do
  let (value, count, rest) ← readNumber 16 0xffffffff text
  if 4 < count then none else some (UInt16.ofNat value, rest)

/-- Two octets as a group. -/
def groupOf (high low : UInt8) : UInt16 := UInt16.ofNat (high.toNat * 256 + low.toNat)

/-- What stands behind a colon, or without one when it is the first. -/
def separated {α : Type} (first : Bool) (read : List Char → Option (α × List Char))
    (text : List Char) : Option (α × List Char) :=
  if first then read text else readChar ':' text >>= read

/-- As many groups as there are, at most so many, and whether the last two
    were written as octets. -/
def readGroups : Nat → Bool → List Char → List UInt16 × Bool × List Char
  | 0, _, text => ([], false, text)
  | n + 1, first, text =>
    match if n = 0 then none else separated first readOctets text with
    | some ((a, b, c, d), rest) => ([groupOf a b, groupOf c d], true, rest)
    | none =>
      match separated first readGroup text with
      | none => ([], false, text)
      | some (g, rest) =>
        let (groups, octets, rest) := readGroups n false rest
        (g :: groups, octets, rest)

/-- Eight groups, if there are as many. -/
def vectorOf (groups : List UInt16) : Option (Vector UInt16 8) :=
  if h : groups.length = 8 then some ⟨groups.toArray, by simpa using h⟩ else none

/-- The groups of a version 6 address. -/
def readV6 (text : List Char) : Option (Vector UInt16 8 × List Char) := do
  let (head, octets, rest) := readGroups 8 true text
  if head.length = 8 then some (← vectorOf head, rest)
  else if octets then none
  else
    let rest ← readChar ':' (← readChar ':' rest)
    let (tail, _, rest) := readGroups (7 - head.length) true rest
    let zeros := List.replicate (8 - head.length - tail.length) 0
    some (← vectorOf (head ++ zeros ++ tail), rest)

/-- A port behind its colon. -/
def readPort (text : List Char) : Option (UInt16 × List Char) := do
  let (value, _, rest) ← readNumber 10 65535 (← readChar ':' text)
  some (UInt16.ofNat value, rest)

/-- A scope behind its percent sign; without one it is zero. -/
def readScope (text : List Char) : UInt32 × List Char :=
  match readChar '%' text >>= readNumber 10 0xffffffff with
  | some (value, _, rest) => (UInt32.ofNat value, rest)
  | none => (0, text)

/-- A version 4 address with its port. -/
def readSocketV4 (text : List Char) : Option (SocketAddress × List Char) := do
  let ((a, b, c, d), text) ← readOctets text
  let (port, text) ← readPort text
  some (⟨.v4 a b c d, port⟩, text)

/-- A version 6 address in brackets with its port. -/
def readSocketV6 (text : List Char) : Option (SocketAddress × List Char) := do
  let (groups, text) ← readV6 (← readChar '[' text)
  let (scope, text) := readScope text
  let (port, text) ← readPort (← readChar ']' text)
  some (⟨.v6 groups scope, port⟩, text)

/-- The address that a text stands for. -/
def ofText? (text : List Char) : Option SocketAddress :=
  match readSocketV4 text <|> readSocketV6 text with
  | some (address, []) => some address
  | _ => none

/-! ### Writing -/

/-- The text of four octets. -/
def octetsText (a b c d : UInt8) : String :=
  toString a ++ "." ++ toString b ++ "." ++ toString c ++ "." ++ toString d

/-- The text of groups with colons between them. -/
def groupsText (groups : List UInt16) : String :=
  String.intercalate ":" (groups.map (fun g => String.ofList (Nat.toDigits 16 g.toNat)))

/-- The number of zero groups in front. -/
def zerosInFront (groups : List UInt16) : Nat := (groups.takeWhile (· = 0)).length

/-- The place and the length of the longest run of zero groups, the first one
    if there are several. -/
def longestZeros (groups : List UInt16) : Nat × Nat :=
  (List.range groups.length).foldl (fun best i =>
    let n := zerosInFront (groups.drop i)
    if best.2 < n then (i, n) else best) (0, 0)

/-- The text of a version 6 address. -/
def v6Text (groups : List UInt16) : String :=
  match groups with
  | [0, 0, 0, 0, 0, 0xffff, g, h] =>
    "::ffff:" ++ octetsText (UInt8.ofNat (g.toNat / 256)) (UInt8.ofNat g.toNat)
      (UInt8.ofNat (h.toNat / 256)) (UInt8.ofNat h.toNat)
  | groups =>
    let (start, length) := longestZeros groups
    if 1 < length then
      groupsText (groups.take start) ++ "::" ++ groupsText (groups.drop (start + length))
    else groupsText groups

/-- The text of a scope; zero is not shown. -/
def scopeText (scope : UInt32) : String := if scope = 0 then "" else "%" ++ toString scope

/-- The text of an address. -/
def toText (s : SocketAddress) : String :=
  match s.ip with
  | .v4 a b c d => octetsText a b c d ++ ":" ++ toString s.port
  | .v6 groups scope =>
    "[" ++ v6Text groups.toList ++ scopeText scope ++ "]:" ++ toString s.port

end SocketAddress

end RoverDispatch
