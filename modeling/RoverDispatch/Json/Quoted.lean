import RoverDispatch.Json.Scan

/-!
# JSON Strings

Strings as they stand in a text.

A string ends at the first quotation mark that is not escaped. Control
characters have to be escaped. An escape of four hexadecimal digits is a
UTF-16 unit, so a character beyond the first plane takes two of them, and half
a character is none. When the value of a string does not matter, its escapes
need not make characters, but they have to be escapes.

## Main definitions

* `scanEscape`: One escape behind its backslash.
* `scanString`: A string behind its quotation mark.

## Theorems

* `scanEscape_shorter`: An escape takes at least one character of the text.
-/

namespace RoverDispatch.Json

/-- The value of a hexadecimal digit. -/
def hexDigit? (c : Char) : Option Nat :=
  if c.isDigit then some (digit c)
  else if 'a' ≤ c ∧ c ≤ 'f' then some (c.toNat - 'a'.toNat + 10)
  else if 'A' ≤ c ∧ c ≤ 'F' then some (c.toNat - 'A'.toNat + 10)
  else none

/-- The number that a run of hexadecimal digits stands for. -/
def hexValue? (cs : List Char) : Option Nat :=
  cs.foldlM (fun n c => (hexDigit? c).map (16 * n + ·)) 0

/-- The number of bytes that a text is stored in. -/
def storedLength (text : List Char) : Nat := text.foldr (fun c n => c.utf8Size + n) 0

/-- Four hexadecimal digits. A text that is stored in fewer than four bytes
    ends too early, whatever it holds. -/
def scanUnit : List Char → Scanned Nat
  | a :: b :: c :: d :: text =>
    match hexValue? [a, b, c, d] with
    | some n => .ok (n, text)
    | none => .error .syntactic
  | text => .error (if storedLength text < 4 then .ended else .syntactic)

/-- A unit that begins a character in two units. -/
def isLeading (n : Nat) : Bool := 0xD800 ≤ n && n < 0xDC00

/-- A unit that ends a character in two units. -/
def isTrailing (n : Nat) : Bool := 0xDC00 ≤ n && n < 0xE000

/-- The second unit of a character in two units. -/
def scanTrailing (leading : Nat) : List Char → Scanned Char
  | [] => .error .ended
  | ['\\'] => .error .ended
  | '\\' :: 'u' :: text =>
    match scanUnit text with
    | .error e => .error e
    | .ok (n, text) =>
      if isTrailing n then
        .ok (Char.ofNat (0x10000 + (leading - 0xD800) * 0x400 + (n - 0xDC00)), text)
      else .error .syntactic
  | _ => .error .syntactic

/-- The character in one or two units. -/
def scanCharacter (text : List Char) : Scanned Char :=
  match scanUnit text with
  | .error e => .error e
  | .ok (n, text) =>
    if isLeading n then scanTrailing n text
    else if isTrailing n then .error .syntactic
    else .ok (Char.ofNat n, text)

/-- The character that a letter behind a backslash stands for. -/
def escaped? : Char → Option Char
  | '"' => some '"'
  | '\\' => some '\\'
  | '/' => some '/'
  | 'b' => some '\x08'
  | 'f' => some '\x0c'
  | 'n' => some '\n'
  | 'r' => some '\r'
  | 't' => some '\t'
  | _ => none

/-- One escape behind its backslash. Without a `value` to make, a unit is
    enough. -/
def scanEscape (value : Bool) : List Char → Scanned Char
  | [] => .error .ended
  | 'u' :: text =>
    if value then scanCharacter text else (scanUnit text).map (fun r => (' ', r.2))
  | c :: text =>
    match escaped? c with
    | some c => .ok (c, text)
    | none => .error .syntactic

theorem scanUnit_shorter {text rest : List Char} {n : Nat} (h : scanUnit text = .ok (n, rest)) :
    rest.length < text.length := by
  unfold scanUnit at h
  split at h
  · split at h
    · cases h
      simp only [List.length_cons]
      omega
    · cases h
  · cases h

theorem scanTrailing_shorter {leading : Nat} {text rest : List Char} {c : Char}
    (h : scanTrailing leading text = .ok (c, rest)) : rest.length < text.length := by
  unfold scanTrailing at h
  split at h
  · cases h
  · cases h
  · split at h
    · cases h
    · -- The unit alone takes something away already.
      rename_i hu
      split at h
      · simp only [Except.ok.injEq, Prod.mk.injEq] at h
        have := scanUnit_shorter hu
        rw [← h.2]
        simp only [List.length_cons]
        omega
      · cases h
  · cases h

theorem scanCharacter_shorter {text rest : List Char} {c : Char}
    (h : scanCharacter text = .ok (c, rest)) : rest.length < text.length := by
  unfold scanCharacter at h
  split at h
  · cases h
  · rename_i hu
    have := scanUnit_shorter hu
    split at h
    · exact Nat.lt_trans (scanTrailing_shorter h) this
    · split at h
      · cases h
      · simp only [Except.ok.injEq, Prod.mk.injEq] at h
        exact h.2 ▸ this

/-- An escape takes at least one character of the text. -/
theorem scanEscape_shorter {value : Bool} {text rest : List Char} {c : Char}
    (h : scanEscape value text = .ok (c, rest)) : rest.length < text.length := by
  unfold scanEscape at h
  split at h
  · cases h
  · rename_i tail
    rw [List.length_cons]
    split at h
    · exact Nat.lt_succ_of_lt (scanCharacter_shorter h)
    · -- Where no value is asked for, the unit alone is passed over.
      cases hu : scanUnit tail with
      | error e => simp [hu, Except.map] at h
      | ok r =>
          simp only [hu, Except.map, Except.ok.injEq, Prod.mk.injEq] at h
          have : r.2.length < tail.length := scanUnit_shorter hu
          rw [← h.2]
          omega
  · split at h
    · cases h
      rw [List.length_cons]
      omega
    · cases h

/-- A string behind its quotation mark; `before` holds the characters already
    read, the latest first. -/
def scanString (value : Bool) (before : List Char) (text : List Char) : Scanned String :=
  match text with
  | [] => .error .ended
  | '"' :: text => .ok (String.ofList before.reverse, text)
  | '\\' :: text =>
    match _h : scanEscape value text with
    | .error e => .error e
    | .ok (c, rest) => scanString value (c :: before) rest
  | c :: text => if c < ' ' then .error .syntactic else scanString value (c :: before) text
termination_by text.length
decreasing_by
  · have := scanEscape_shorter _h
    simp only [List.length_cons]
    omega
  · simp only [List.length_cons]
    omega

end RoverDispatch.Json
