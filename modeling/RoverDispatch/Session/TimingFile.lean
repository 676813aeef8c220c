import RoverDispatch.Json.Record
import RoverDispatch.Session.Timing

/-!
# Timing Files

Waits and limits written as JSON.

Nothing may be left out, so that both ends of a session can be given the same
file and agree.

## Main definitions

* `timingColumns`: The keys of a timing.
* `readTiming`: The timing in a text.
-/

namespace RoverDispatch

open Json

/-- The keys of a timing. -/
@[reducible]
def timingColumns : List Column :=
  [{ key := "timeout_ms", shape := .nat64 },
    { key := "max_retries", shape := .nat32 },
    { key := "fragment_size", shape := .nat64 },
    { key := "fragment_send_gap_ms", shape := .nat64 },
    { key := "final_ack_repeats", shape := .nat32 },
    { key := "final_ack_gap_ms", shape := .nat64 },
    { key := "progress_timeout_factor", shape := .nat64 },
    { key := "progress_timeout_floor_ms", shape := .nat64 },
    { key := "progress_max_retries", shape := .nat32 },
    { key := "terminal_max_retries", shape := .nat32 },
    { key := "ack_batch", shape := .nat64 }]

/-- The timing whose values stand in a row; the shapes keep them from being
    negative. -/
def Timing.ofRow : Row timingColumns → Timing
  | (timeout, maxAttempts, fragmentSize, fragmentGap, finalAckRepeats, finalAckGap,
      progressFactor, progressFloor, progressRetries, terminalRetries, ackBatch, ()) =>
    { timeout := Int.toNat timeout
      maxAttempts := Int.toNat maxAttempts
      fragmentSize := Int.toNat fragmentSize
      fragmentGap := Int.toNat fragmentGap
      finalAckRepeats := Int.toNat finalAckRepeats
      finalAckGap := Int.toNat finalAckGap
      progressFactor := Int.toNat progressFactor
      progressFloor := Int.toNat progressFloor
      progressRetries := Int.toNat progressRetries
      terminalRetries := Int.toNat terminalRetries
      ackBatch := Int.toNat ackBatch }

/-- The timing in a text. -/
def readTiming (text : String) : Except JsonError Timing :=
  (readAll (scanRecord timingColumns) text).map Timing.ofRow

end RoverDispatch
