import RoverDispatch.Numeric.Interval

/-!
# Receive Windows

Which numbers of a transfer have arrived.

The messages of a transfer are numbered without gaps from a first number. The
receiver keeps the numbers it has seen and asks for others in two ways: for
everything outstanding once the end has come or nothing comes any more, and
for the numbers that were skipped while the transfer is still under way.

A transfer has at least one message, whatever total was announced. Its last
number is a plain sum, which agrees with a number of 32 bits and a sign as long
as it is below 2 ^ 31; a larger total is not one that a transfer can have.

## Main definitions

* `Window`: The range of a transfer and the numbers seen.
* `Window.record`: One more number; the window if it was new.
* `Window.isComplete`: Everything has been seen.
* `Window.missing`, `Window.gaps`: The numbers to ask for.
-/

namespace RoverDispatch

/-- The range of a transfer and the numbers seen, the latest first. -/
structure Window where
  first : Int
  total : Int
  seen : List Int
  deriving DecidableEq, Inhabited

namespace Window

/-- A window in which nothing has been seen. -/
def start (first total : Int) : Window := ⟨first, max total 1, []⟩

/-- The last number of the transfer. -/
def last (w : Window) : Int := w.first + w.total - 1

/-- Whether a number belongs to the transfer. -/
def contains (w : Window) (seq : Int) : Bool := w.first ≤ seq ∧ seq ≤ w.last

/-- The window with one more number, if it belongs to the transfer and is
    new. -/
def record? (w : Window) (seq : Int) : Option Window :=
  if w.contains seq ∧ seq ∉ w.seen then some { w with seen := seq :: w.seen } else none

/-- How many numbers have been seen. -/
def count (w : Window) : Nat := w.seen.length

/-- The highest number seen. -/
def highest? (w : Window) : Option Int := w.seen.max?

/-- Everything has been seen. -/
def isComplete (w : Window) : Bool := (w.count : Int) = w.total

/-- The numbers of the transfer that have not been seen. -/
def missing (w : Window) : List Int :=
  (intRange w.first (w.first + w.total)).filter (fun seq => seq ∉ w.seen)

/-- The numbers that were skipped: unseen ones below the highest seen. -/
def gaps (w : Window) : List Int :=
  match w.highest? with
  | none => []
  | some highest => (intRange w.first highest).filter (fun seq => seq ∉ w.seen)

/-- The window with everything forgotten. -/
def reset (w : Window) : Window := { w with seen := [] }

end Window

end RoverDispatch
