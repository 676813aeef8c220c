import RoverDispatch.Session.Timing
import RoverDispatch.Transfer.Assembly
import RoverDispatch.Transfer.Messages
import RoverDispatch.Transfer.Window

/-!
# Receptions

A rover receiving a mission.

Between the hello and the mission the rover collects fragments. What it asks
for is decided here: nothing while the numbers come without gaps, the skipped
numbers after every few fragments, and everything outstanding when the last
number has come or nothing comes any more. A number that was asked for is not
asked for again before the answer can have come.

Fragments that are all there and yet make no mission are forgotten, and
everything is asked for anew.

## Main definitions

* `Reception`: What has arrived and what was asked for.
* `Verdict`: What a fragment leads to.
* `Reception.take`: One more fragment.
* `Reception.nudge`: Nothing has come for a while.
-/

namespace RoverDispatch

/-- What has arrived of a mission and what was asked for, with the times of
    asking. The window is there once a fragment has told the total. -/
structure Reception where
  assembly : Assembly
  window : Option Window
  /-- Fragments since the last look for gaps. -/
  sinceCheck : Nat
  requested : Table Int Nat
  /-- When the coordinator was last heard of. -/
  lastInbound : Nat
  /-- How often the coordinator was asked out of silence. -/
  nudges : Nat
  deriving DecidableEq, Inhabited

/-- What a fragment leads to. -/
inductive Verdict where
  | silent
  | ask (missing : List Int)
  | complete (m : Mission)
  deriving DecidableEq, Inhabited

namespace Reception

/-- Nothing has arrived. -/
def start (now : Nat) : Reception :=
  { assembly := ∅, window := none, sinceCheck := 0, requested := ∅, lastInbound := now,
    nudges := 0 }

/-- The number of messages in the transfer, as far as it is known. -/
def total (r : Reception) : Int :=
  match r.window with
  | none => 1
  | some w => w.total

/-- Numbers have been asked for. -/
def markRequested (r : Reception) (seqs : List Int) (now : Nat) : Reception :=
  { r with requested := seqs.foldl (fun t seq => t.insert seq now) r.requested }

/-- Whether a number was asked for so recently that the answer can still be
    on its way. -/
def isPending (r : Reception) (hold now : Nat) (seq : Int) : Bool :=
  match r.requested.find? seq with
  | none => false
  | some asked => now < later asked hold

/-- Ask for numbers, except those whose answer can still be on its way. -/
def ask (r : Reception) (seqs : List Int) (hold now : Nat) : Reception × Verdict :=
  let fresh := seqs.filter (fun seq => !r.isPending hold now seq)
  let r := { r with sinceCheck := 0 }.markRequested fresh now
  (r, if fresh = [] then .silent else .ask fresh)

/-- Forget all fragments and ask for everything. -/
def restart (r : Reception) (w : Window) (now : Nat) : Reception × Verdict :=
  let w := w.reset
  let r := { r with assembly := ∅, window := some w, sinceCheck := 0, requested := ∅ }
  (r.markRequested w.missing now, .ask w.missing)

/-- A number that is not new. The last one tells that the coordinator is
    sending everything again, so it is told what is missing. -/
def takeKnown (r : Reception) (w : Window) (seq : Int) (now : Nat) : Reception × Verdict :=
  let r := { r with window := some w }
  if seq = w.last then (r.markRequested w.missing now, .ask w.missing) else (r, .silent)

/-- A number that is new, already recorded in the window. -/
def takeNew (r : Reception) (t : Timing) (w : Window) (seq : Int) (fields : List Field)
    (now : Nat) : Reception × Verdict :=
  let r := { r with
    assembly := r.assembly.addAll fields, window := some w, sinceCheck := r.sinceCheck + 1 }
  if w.isComplete then
    match r.assembly.rebuildMission with
    | .ok mission => (r, .complete mission)
    -- All fragments are there and still make no mission, so some must have been spoilt.
    | .error _ => r.restart w now
  -- With the last fragment everything is asked for, and before it only what was skipped.
  else if seq = w.last then r.ask w.missing t.timeout now
  else if t.ackBatch ≤ r.sinceCheck then r.ask w.gaps t.timeout now
  else (r, .silent)

/-- One more fragment: its number, the total it announces and its fields. -/
def take (r : Reception) (t : Timing) (seq total : Int) (fields : List Field) (now : Nat) :
    Reception × Verdict :=
  -- The first fragment tells how many there are, and later ones are not asked again.
  let w := r.window.getD (.start firstTransferSeq total)
  match w.record? seq with
  | none => r.takeKnown w seq now
  | some w => r.takeNew t w seq fields now

/-- Nothing has come for a while: the number of the highest fragment and all
    numbers that are missing, once a fragment has told the total. -/
def nudge (r : Reception) (now : Nat) : Reception × Option (Int × List Int) :=
  let r := { r with nudges := r.nudges + 1, lastInbound := now }
  match r.window with
  -- Nothing has arrived, so nobody knows what is missing.
  | none => (r, none)
  | some w =>
    (r.markRequested w.missing now, some (w.highest?.getD firstTransferSeq, w.missing))

end Reception

end RoverDispatch
