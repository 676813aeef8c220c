import RoverDispatch.Message.Basic
import RoverDispatch.Session.Timing

/-!
# Report Queues

Sending reports one at a time until each is acknowledged.

A rover reports progress, completion and failure. At most one report is in
flight; the next is sent when it has been acknowledged or given up. A report
gets its sequence number when it is first sent, so numbers follow the order of
sending without gaps. Every report that was ever sent is kept under its number
and is sent again, unchanged, when an acknowledgement lists it as missing.

Progress that has not been sent is out of date as soon as newer progress is
there, and worthless once the mission has ended, so the queue holds the newest
progress only and drops it for a terminal report.

The end of a wait and the number of attempts are counted as `after` and
`attemptsFor` count them. Sequence numbers go on for ever here, while those of
messages have 32 bits and a sign: a queue stands for one that is really there
up to report 2 ^ 31 - 1.

## Main definitions

* `Report`: Progress, completion or an error.
* `ReportQueue`: What is waiting, in flight and sent.
* `ReportQueue.enqueue`: One more report.
* `ReportQueue.confirm?`: An acknowledgement of the report in flight.
* `ReportQueue.poll`: Repeating, giving up and sending what is due.
* `ReportQueue.deadline?`: When polling next makes a difference.
-/

namespace RoverDispatch

/-- What a rover reports. -/
inductive Report where
  | progress (p : Progress)
  | completed
  | error (e : ErrorReport)
  deriving DecidableEq, Inhabited

/-- A report that ends the mission. -/
def Report.isTerminal : Report → Bool
  | progress _ => false
  | completed => true
  | error _ => true

/-- The kind of message that a report is sent as. -/
def Report.kind : Report → Kind
  | progress _ => .progress
  | completed => .completed
  | error _ => .error

/-- The payload that a report is sent with. -/
def Report.payload : Report → Payload
  | progress p => .progress p
  | completed => .empty
  | error e => .error e

/-- Whether a report says that all is well. -/
def Report.success : Report → Bool
  | error _ => false
  | _ => true

/-- A report that has been sent and not yet acknowledged. -/
structure InFlight where
  seq : Int
  message : Message
  attempts : Nat
  sentAt : Nat
  terminal : Bool
  deriving DecidableEq, Inhabited

/-- Reports waiting, in flight and sent, the latest sent first. -/
structure ReportQueue where
  agent : Int
  coordinator : Int
  mission : Int
  nextSeq : Int
  waiting : List Report
  inFlight : Option InFlight
  sent : List Message
  timeout : Nat
  progressAttempts : Nat
  terminalAttempts : Nat
  deriving DecidableEq, Inhabited

/-- An acknowledged report and the earlier ones to send again. -/
structure Confirmation where
  queue : ReportQueue
  seq : Int
  terminal : Bool
  replay : List Message
  deriving DecidableEq, Inhabited

/-- A report given up: its number and whether it was terminal. -/
structure Abandoned where
  seq : Int
  terminal : Bool
  deriving DecidableEq, Inhabited

/-- What polling a queue leads to. -/
structure Dispatched where
  queue : ReportQueue
  messages : List Message
  abandoned : Option Abandoned
  deriving DecidableEq, Inhabited

namespace ReportQueue

/-- An empty queue for one mission. A report is repeated a number of times
    after it was first sent. -/
def start (agent coordinator mission : Int) (t : Timing) : ReportQueue :=
  { agent, coordinator, mission, nextSeq := 1, waiting := [], inFlight := none, sent := [],
    timeout := t.timeout, progressAttempts := attemptsFor t.progressRetries,
    terminalAttempts := attemptsFor t.terminalRetries }

/-- The queue with progress put in place of the progress at its end. -/
def replaceLast (waiting : List Report) (p : Progress) : List Report :=
  match waiting.getLast? with
  -- Only the newest progress is worth sending.
  | some (.progress _) => waiting.dropLast ++ [.progress p]
  | _ => waiting ++ [.progress p]

/-- The queue with one more report. -/
def enqueue (q : ReportQueue) (report : Report) : ReportQueue :=
  match report with
  | .progress p =>
    -- What is in flight or has been sent is not looked at.
    if q.waiting.any Report.isTerminal then q
    else { q with waiting := replaceLast q.waiting p }
  -- Progress that still waits is of no use once the mission has ended.
  | terminal => { q with waiting := q.waiting.filter Report.isTerminal ++ [terminal] }

/-- The message that was sent under a number. -/
def sentUnder? (q : ReportQueue) (seq : Int) : Option Message :=
  q.sent.find? (fun m => m.seq = seq)

/-- What an acknowledgement confirms: only the report in flight. Earlier
    reports that it lists as missing are to be sent again, in its order. -/
def confirm? (q : ReportQueue) (seq : Int) (ack : Ack) : Option Confirmation :=
  match q.inFlight with
  | none => none
  | some flight =>
    if flight.seq = seq then
      some {
        queue := { q with inFlight := none }
        seq
        terminal := flight.terminal
        replay := (ack.missing.filter (fun s => s < seq)).filterMap q.sentUnder? }
    else none

/-- The message of a report under a number. -/
def message (q : ReportQueue) (seq : Int) (report : Report) : Message :=
  { kind := report.kind, sender := q.agent, receiver := q.coordinator, mission := q.mission,
    seq, success := report.success, payload := report.payload }

/-- The next waiting report sent for the first time. -/
def sendNext (q : ReportQueue) (abandoned : Option Abandoned) (now : Nat) : Dispatched :=
  match q.waiting with
  | [] => { queue := q, messages := [], abandoned }
  | report :: waiting =>
    let message := q.message q.nextSeq report
    let flight : InFlight :=
      { seq := q.nextSeq, message, attempts := 1, sentAt := now, terminal := report.isTerminal }
    { queue := { q with
        nextSeq := q.nextSeq + 1, waiting, inFlight := some flight, sent := message :: q.sent }
      messages := [message]
      abandoned }

/-- How often a report is sent before it is given up. -/
def attemptLimit (q : ReportQueue) (terminal : Bool) : Nat :=
  if terminal then q.terminalAttempts else q.progressAttempts

/-- Repeat the report in flight when its time has come, or give it up after
    its last attempt; with nothing in flight, send the next one. Nothing is
    sent after a terminal report was given up. -/
def poll (q : ReportQueue) (now : Nat) : Dispatched :=
  match q.inFlight with
  | none => q.sendNext none now
  | some flight =>
    if now < after flight.sentAt q.timeout then { queue := q, messages := [], abandoned := none }
    else if flight.attempts < q.attemptLimit flight.terminal then
      let flight := { flight with attempts := flight.attempts + 1, sentAt := now }
      { queue := { q with inFlight := some flight }
        messages := [flight.message]
        abandoned := none }
    else
      let abandoned := some { seq := flight.seq, terminal := flight.terminal }
      let q := { q with inFlight := none }
      -- A terminal report was the last that the session had to say.
      if flight.terminal then { queue := q, messages := [], abandoned }
      else q.sendNext abandoned now

/-- When polling next makes a difference: at once if a report is waiting and
    none is in flight. -/
def deadline? (q : ReportQueue) : Option Nat :=
  match q.inFlight with
  | some flight => some (after flight.sentAt q.timeout)
  | none => if q.waiting = [] then none else some 0

end ReportQueue

end RoverDispatch
