/-!
# Blank Characters

White space at the ends of a text, in every script.

A task that holds nothing but white space is no task, and the blanks around a
typed endpoint are not part of it. White space is the Unicode property, which
is wider than the blanks of the keyboard: it holds the no-break space, the
ideographic space and the line and paragraph separators.

## Main definitions

* `Text.isBlank`: The white-space property.
* `Text.trim`: A text without the blanks at its ends.
* `Text.isBlankText`: Nothing but blanks.
-/

namespace RoverDispatch

namespace Text

/-- The white-space property of a character. -/
def isBlank (c : Char) : Bool :=
  let n := c.toNat
  (0x09 ≤ n && n ≤ 0x0d) || n == 0x20 || n == 0x85 || n == 0xa0 || n == 0x1680 ||
    (0x2000 ≤ n && n ≤ 0x200a) || n == 0x2028 || n == 0x2029 || n == 0x202f ||
    n == 0x205f || n == 0x3000

/-- Characters without the blanks at their ends. -/
def trim (cs : List Char) : List Char :=
  ((cs.dropWhile isBlank).reverse.dropWhile isBlank).reverse

/-- Nothing but blanks. -/
def isBlankText (s : String) : Bool := s.toList.all isBlank

end Text

end RoverDispatch
