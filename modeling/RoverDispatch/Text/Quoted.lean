import RoverDispatch.Text.Printable

/-!
# Quoted Text

A text shown inside a message so that nothing in it can be mistaken.

A rejected endpoint is quoted back to whoever typed it. The quotation is in
double quotes, with the usual short escapes for the quote itself, the
backslash and the common controls, and with the code point in braces for any
other character that would not show.

## Main definitions

* `Text.quoted`: A text between quotes, with its escapes.
-/

namespace RoverDispatch

namespace Text

/-- The brace that opens a code point in an escape. -/
def openBrace : Char := '\x7b'

/-- The brace that closes a code point in an escape. -/
def closeBrace : Char := '\x7d'

/-- How one character is written inside a quotation. -/
def quotedChar (c : Char) : List Char :=
  match c with
  | '\x00' => ['\\', '0']
  | '\t' => ['\\', 't']
  | '\r' => ['\\', 'r']
  | '\n' => ['\\', 'n']
  | '\\' => ['\\', '\\']
  | '"' => ['\\', '"']
  | c =>
    if Printable.isHidden c then
      ['\\', 'u', openBrace] ++ Nat.toDigits 16 c.toNat ++ [closeBrace]
    else [c]

/-- A text between double quotes, with its escapes. -/
def quoted (s : String) : String :=
  String.ofList ('"' :: s.toList.flatMap quotedChar ++ ['"'])

end Text

end RoverDispatch
