/-!
# Timing

The waits and limits that both ends of a session agree on.

Time is a number of milliseconds and is always handed in; nothing in a session
reads a clock. A time fits into 64 bits and a number of attempts into 32, and
what happens to a sum that does not fit depends on where it comes from. A wait
that is computed from a mission can be longer than any clock runs, so what is
computed from it stops at the largest time, and so does the time for which a
request for a fragment is held. All other waits are taken as they were agreed
on: when one of them leads past the largest time, the sum starts again at zero,
and the wait is over at once. The same happens to the number of attempts when
the largest number of repetitions is agreed on.

## Main definitions

* `maxTime`, `later`: The largest time, and a sum that stops there.
* `after`: A sum that starts again at zero.
* `maxCount`, `attemptsFor`: The largest number of repetitions, and the number of
  attempts.
* `earliest`: The earlier of two times, either of which can be missing.
* `Timing`: Waits and limits, with their defaults.
* `Timing.progressTimeout`: How long a supervised mission may be silent.

## Theorems

* `after_eq`, `attemptsFor_eq`: Sums that fit are as usual.
-/

namespace RoverDispatch

/-- The largest time, in milliseconds. -/
def maxTime : Nat := 0xffffffffffffffff

/-- A time after a wait, stopping at the largest time. -/
def later (time wait : Nat) : Nat := min maxTime (time + wait)

/-- A time after a wait, starting again at zero past the largest time. -/
def after (time wait : Nat) : Nat := (time + wait) % (maxTime + 1)

theorem after_eq {time wait : Nat} (h : time + wait ≤ maxTime) : after time wait = time + wait :=
  Nat.mod_eq_of_lt (Nat.lt_succ_of_le h)

/-- The largest number of repetitions. -/
def maxCount : Nat := 0xffffffff

/-- How often something is sent that is repeated a number of times, starting
    again at zero past the largest number. -/
def attemptsFor (repeats : Nat) : Nat := (repeats + 1) % (maxCount + 1)

theorem attemptsFor_le (repeats : Nat) : attemptsFor repeats ≤ repeats + 1 := Nat.mod_le ..

/-- A number of seconds in milliseconds, stopping at the largest time; none
    for a number that is not positive. -/
def millis (seconds : Int) : Nat := min maxTime (seconds.toNat * 1000)

/-- The earlier of two times, either of which can be missing. -/
def earliest : Option Nat → Option Nat → Option Nat
  | some a, some b => some (min a b)
  | some a, none => some a
  | none, b => b

/-- The waits and limits that both ends of a session agree on. -/
structure Timing where
  /-- The wait for an answer to anything that is sent. -/
  timeout : Nat := 5000
  /-- How often a hello or a whole transfer is sent, the first time included. -/
  maxAttempts : Nat := 3
  /-- The most bytes of fields in one fragment. -/
  fragmentSize : Nat := 512
  /-- The pause between the fragments of a transfer. -/
  fragmentGap : Nat := 10
  /-- How often the final acknowledgement is sent. -/
  finalAckRepeats : Nat := 3
  /-- The pause between final acknowledgements. -/
  finalAckGap : Nat := 200
  /-- How many update intervals a supervised mission may be silent. -/
  progressFactor : Nat := 8
  /-- How long it may be silent when it has no update interval. -/
  progressFloor : Nat := 40000
  /-- How often an unconfirmed progress report is repeated. -/
  progressRetries : Nat := 3
  /-- How often an unconfirmed terminal report is repeated. -/
  terminalRetries : Nat := 8
  /-- After how many fragments the receiver looks for gaps. -/
  ackBatch : Nat := 5
  deriving DecidableEq, Inhabited

/-- How long a supervised mission with the given update interval may be
    silent. -/
def Timing.progressTimeout (t : Timing) (updateInterval : Int) : Nat :=
  if 0 < updateInterval then min maxTime (millis updateInterval * t.progressFactor)
  else t.progressFloor

end RoverDispatch
