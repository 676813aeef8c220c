import RoverDispatch.Numeric.Interval
import RoverDispatch.Session.Reaction
import RoverDispatch.Session.Timing
import RoverDispatch.Transfer.Messages

/-!
# Supervisors

The coordinator's end of a session: one mission brought to one rover and
watched until it ends.

A supervisor greets the rover, sends the mission when the rover answers that
it is available, repeats what the rover asks for, and then watches the
reports. The mission counts as received when the rover says that nothing is
missing, and also when a report arrives, since only a rover that has the
mission reports on it.

Reports are numbered from one by the rover. The supervisor remembers the
highest number and the numbers it has not seen below it, and tells them in
every acknowledgement, so that the rover can send those reports again. Only a
report with a new highest number changes anything else. A terminal report is
acknowledged several times, because a rover that has gone silent cannot be
asked whether it has heard.

How long a mission that is watched may be silent depends on the mission, so
that deadline stops at the largest time. All others are counted as `after`
counts them.

## Main definitions

* `FailureReason`, `SessionOutcome`: How a session ends.
* `SessionEvent`: What a session tells the rest of the coordinator.
* `ReportLog`: Which reports have arrived.
* `Supervision`: The phase of a session and what belongs to it.
* `Supervisor`: The machine.
* `Supervisor.greet`, `Supervisor.receive`, `Supervisor.poll`,
  `Supervisor.transmitted`: Its inputs.
* `Supervisor.deadline?`: When polling next makes a difference.
-/

namespace RoverDispatch

/-- Why a session failed. -/
inductive FailureReason where
  /-- No answer to any hello. -/
  | unresponsive
  | declined
  /-- The rover never said what it has of the mission. -/
  | transferUnconfirmed
  /-- No news for longer than the mission allows. -/
  | silent
  /-- The rover reported an error. -/
  | missionError (e : ErrorReport)
  deriving DecidableEq, Inhabited

namespace FailureReason

/-- The wording of a reason. -/
def message : FailureReason → String
  | unresponsive => "agent unresponsive"
  | declined => "agent declined the mission"
  | transferUnconfirmed => "mission transfer was never acknowledged"
  | silent => "progress reports stopped"
  | missionError e => "mission error " ++ toString e.fault.code ++ ": " ++ e.description

/-- The error that a rover reported. -/
def report? : FailureReason → Option ErrorReport
  | missionError e => some e
  | _ => none

end FailureReason

/-- How a session ended. -/
inductive SessionOutcome where
  | completed
  | failed (reason : FailureReason)
  deriving DecidableEq, Inhabited

/-- What a session tells the rest of the coordinator. -/
inductive SessionEvent where
  /-- The rover has the mission. -/
  | accepted
  | progress (p : Progress)
  | completed
  /-- The session failed, before or after the first progress report. -/
  | failed (reason : FailureReason) (afterProgress : Bool)
  deriving DecidableEq, Inhabited

/-- Which reports have arrived: the highest number, none of them being zero,
    and the numbers below it that have not, increasing. -/
structure ReportLog where
  last : Int
  lost : List Int
  progressSeen : Bool
  deriving DecidableEq, Inhabited

namespace ReportLog

/-- No report has arrived. -/
def empty : ReportLog := ⟨0, [], false⟩

/-- An earlier report has arrived, perhaps once more. -/
def recover (l : ReportLog) (seq : Int) : ReportLog :=
  { l with lost := l.lost.filter (fun s => s ≠ seq) }

/-- A report has arrived whose number is the new highest. -/
def advance (l : ReportLog) (seq : Int) : ReportLog :=
  { l with last := seq, lost := l.lost ++ intRange (l.last + 1) seq }

end ReportLog

/-- What is left to do after the end: how often the final acknowledgement is
    still sent, under which number, and when. -/
structure Farewell where
  seq : Int
  left : Nat
  next : Nat
  deriving DecidableEq, Inhabited

/-- Nothing is left to do. -/
def Farewell.none : Farewell := ⟨0, 0, 0⟩

/-- The phase of a session and what belongs to it. -/
inductive Supervision where
  | idle
  /-- Greeted, so many times again, and waiting until the deadline. -/
  | awaitingResponse (retries deadline : Nat)
  /-- Sending the mission. -/
  | transmitting (retries : Nat)
  /-- The mission was sent, so many times again. -/
  | awaitingAck (retries deadline : Nat)
  /-- Watching the reports. -/
  | watching (deadline : Nat)
  | ended (outcome : SessionOutcome) (farewell : Farewell)
  deriving DecidableEq, Inhabited

namespace Supervision

/-- How the session ended, if it has. -/
def outcome? : Supervision → Option SessionOutcome
  | ended outcome _ => some outcome
  | _ => none

/-- When polling next makes a difference. -/
def deadline? : Supervision → Option Nat
  | idle => none
  | awaitingResponse _ deadline => some deadline
  | transmitting _ => none
  | awaitingAck _ deadline => some deadline
  | watching deadline => some deadline
  | ended _ farewell => if farewell.left = 0 then none else some farewell.next

end Supervision

/-- The coordinator's end of a session. -/
structure Supervisor where
  timing : Timing
  rover : Int
  mission : Mission
  /-- The messages of the mission, in order. -/
  transfer : List Message
  phase : Supervision
  log : ReportLog
  /-- When the rover was last heard of. -/
  lastActivity : Nat
  deriving DecidableEq, Inhabited

/-- What a supervisor makes of an input. -/
abbrev SupervisorReaction := Reaction Supervisor SessionEvent

namespace Supervisor

/-- A supervisor that has not greeted yet; there is none for a mission that
    cannot be cut into fragments. -/
def prepare (timing : Timing) (rover : Int) (mission : Mission) :
    Except TransferError Supervisor := do
  let transfer ← mission.transferMessages rover timing.fragmentSize
  return { timing, rover, mission, transfer, phase := .idle, log := .empty, lastActivity := 0 }

/-! ### What can be seen of a session -/

/-- How the session ended, if it has. -/
def outcome? (s : Supervisor) : Option SessionOutcome := s.phase.outcome?

/-- The session has ended. -/
def isTerminal (s : Supervisor) : Bool := s.outcome?.isSome

/-- The session has ended and the final acknowledgement is still being
    sent. -/
def isSayingFarewell (s : Supervisor) : Bool :=
  match s.phase with
  | .ended _ farewell => 0 < farewell.left
  | _ => false

/-- The session has ended and nothing is left to send. -/
def isFinished (s : Supervisor) : Bool :=
  match s.phase with
  | .ended _ farewell => farewell.left = 0
  | _ => false

/-- When polling next makes a difference. -/
def deadline? (s : Supervisor) : Option Nat := s.phase.deadline?

/-! ### Messages -/

/-- The message that opens the session. -/
def hello (s : Supervisor) : Message :=
  { kind := .hello, sender := coordinatorId, receiver := s.rover, mission := s.mission.id,
    seq := helloSeq }

/-- The acknowledgement of a report, with everything still lost. -/
def ack (s : Supervisor) (seq : Int) (final : Bool) : Message :=
  { kind := .ack, sender := coordinatorId, receiver := s.rover, mission := s.mission.id, seq,
    success := s.log.lost.isEmpty, payload := .ack ⟨s.log.lost, final⟩ }

/-- The messages of the transfer that are asked for, in the order of the
    transfer. -/
def requested (s : Supervisor) (missing : List Int) : List Message :=
  s.transfer.filter (fun m => m.seq ∈ missing)

/-! ### Changes of phase -/

/-- The session ends without a word to the rover. -/
def fail (s : Supervisor) (reason : FailureReason) : SupervisorReaction :=
  { state := { s with phase := .ended (.failed reason) .none }
    events := [.failed reason s.log.progressSeen] }

/-- A terminal report ends the session and is acknowledged at once. -/
def finish (s : Supervisor) (outcome : SessionOutcome) (event : SessionEvent) (seq : Int)
    (now : Nat) : SupervisorReaction :=
  let farewell : Farewell :=
    { seq, left := s.timing.finalAckRepeats - 1, next := after now s.timing.finalAckGap }
  { state := { s with phase := .ended outcome farewell }
    messages := [s.ack seq true]
    events := [event] }

/-- The session watches the reports from now on. -/
def watch (s : Supervisor) (now : Nat) : Supervisor :=
  { s with phase := .watching (later now (s.timing.progressTimeout s.mission.updateInterval)) }

/-! ### Inputs -/

/-- Open the session. -/
def greet (s : Supervisor) (now : Nat) : SupervisorReaction :=
  match s.phase with
  | .idle =>
    { state := { s with
        phase := .awaitingResponse 0 (after now s.timing.timeout), lastActivity := now }
      messages := [s.hello] }
  | _ => .quiet s

/-- The rover answers the hello. -/
def onResponse (s : Supervisor) (available : Bool) : SupervisorReaction :=
  match s.phase with
  | .awaitingResponse retries _ =>
    if available then
      { state := { s with phase := .transmitting retries }, messages := s.transfer }
    else s.fail .declined
  | _ => .quiet s

/-- The rover says what it is missing of the mission while it is being
    transferred. -/
def onMissing (s : Supervisor) (retries : Nat) (missing : List Int) (now : Nat) :
    SupervisorReaction :=
  if missing = [] then { state := s.watch now, events := [.accepted] }
  else
    -- The retries are taken over from the phase before, whichever it was.
    { state := { s with phase := .awaitingAck retries (after now s.timing.timeout) }
      messages := s.requested missing }

/-- The rover acknowledges the transfer or a part of it. -/
def onAck (s : Supervisor) (missing : List Int) (now : Nat) : SupervisorReaction :=
  match s.phase with
  | .transmitting retries => s.onMissing retries missing now
  | .awaitingAck retries _ => s.onMissing retries missing now
  | _ => .quiet s

/-- A report whose number is the new highest. -/
def onNews (s : Supervisor) (m : Message) (now : Nat) : SupervisorReaction :=
  match m.kind, m.payload with
  | .progress, .progress p =>
    let s := { s with log := { s.log with progressSeen := true } }
    { state := s.watch now, messages := [s.ack m.seq false], events := [.progress p] }
  | .completed, _ => s.finish .completed .completed m.seq now
  | .error, .error e =>
    s.finish (.failed (.missionError e)) (.failed (.missionError e) s.log.progressSeen) m.seq now
  -- A report without the payload of its kind is not even acknowledged.
  | _, _ => .quiet s

/-- A report on a mission that is watched. -/
def supervise (s : Supervisor) (m : Message) (now : Nat) : SupervisorReaction :=
  if m.seq ≤ s.log.last then
    -- An old number fills a gap at best, and is acknowledged all the same.
    let s := { s with log := s.log.recover m.seq }
    { state := s, messages := [s.ack m.seq false] }
  else { s with log := s.log.advance m.seq }.onNews m now

/-- The mission is received, since the rover reports on it. -/
def acceptAndSupervise (s : Supervisor) (m : Message) (now : Nat) : SupervisorReaction :=
  let r := (s.watch now).supervise m now
  { r with events := .accepted :: r.events }

/-- The rover reports. After the end only the acknowledgement is repeated. -/
def onReport (s : Supervisor) (m : Message) (now : Nat) : SupervisorReaction :=
  match s.phase with
  | .transmitting _ => s.acceptAndSupervise m now
  | .awaitingAck _ _ => s.acceptAndSupervise m now
  | .watching _ => s.supervise m now
  | .ended _ _ => { state := s, messages := [s.ack m.seq m.kind.isTerminal] }
  | _ => .quiet s

/-- What an acknowledgement says is missing; without a list, nothing. -/
def missingIn (m : Message) : List Int :=
  match m.payload with
  | .ack a => a.missing
  | _ => []

/-- A message arrives. One from another rover or about another mission changes
    nothing. -/
def receive (s : Supervisor) (m : Message) (now : Nat) : SupervisorReaction :=
  if m.sender = s.rover ∧ m.mission = s.mission.id then
    -- The rover has been heard of, whatever comes of the message.
    let s := { s with lastActivity := now }
    match m.kind with
    | .response => s.onResponse m.success
    | .ack => s.onAck (missingIn m) now
    | .progress | .completed | .error => s.onReport m now
    | _ => .quiet s
  else .quiet s

/-- Repeat what was sent, with one more retry and a new deadline, or fail when
    the attempts are used up. -/
def retry (s : Supervisor) (retries : Nat) (now : Nat) (phase : Nat → Nat → Supervision)
    (messages : List Message) (reason : FailureReason) : SupervisorReaction :=
  if retries + 1 < s.timing.maxAttempts then
    { state := { s with phase := phase (retries + 1) (after now s.timing.timeout) }, messages }
  else s.fail reason

/-- Send the final acknowledgement once more. -/
def repeatFarewell (s : Supervisor) (outcome : SessionOutcome) (farewell : Farewell) (now : Nat) :
    SupervisorReaction :=
  let next : Farewell :=
    { farewell with left := farewell.left - 1, next := after now s.timing.finalAckGap }
  { state := { s with phase := .ended outcome next }
    messages := [s.ack farewell.seq true] }

/-- Time has passed: what is due by now is done. -/
def poll (s : Supervisor) (now : Nat) : SupervisorReaction :=
  match s.phase with
  | .awaitingResponse retries deadline =>
    if now < deadline then .quiet s
    else s.retry retries now .awaitingResponse [s.hello] .unresponsive
  | .awaitingAck retries deadline =>
    if now < deadline then .quiet s
    else s.retry retries now .awaitingAck s.transfer .transferUnconfirmed
  | .watching deadline => if now < deadline then .quiet s else s.fail .silent
  | .ended outcome farewell =>
    -- The first final acknowledgement has been sent with the report itself.
    if farewell.left = 0 ∨ now < farewell.next then .quiet s
    else s.repeatFarewell outcome farewell now
  | _ => .quiet s

/-- The messages of the transfer have all been sent. -/
def transmitted (s : Supervisor) (now : Nat) : Supervisor :=
  match s.phase with
  -- Here the retries begin anew.
  | .transmitting _ => { s with phase := .awaitingAck 0 (after now s.timing.timeout) }
  | _ => s

end Supervisor

end RoverDispatch
