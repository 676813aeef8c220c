import RoverDispatch.Message.Payload
import RoverDispatch.Session.Execution
import RoverDispatch.Text.Blank

/-!
# Drafts

Missions as they are handed in.

A draft has no number yet and may leave times open. It becomes a mission when
its priority is between one and five, its area is bounded and its task says
something. Times that are not positive are replaced by the usual ones, and
times beyond a limit by the limit.

## Main definitions

* `Draft`: A mission as it is handed in.
* `Draft.defect?`: What keeps it from becoming a mission.
* `Draft.toMission`: The mission it becomes.
-/

namespace RoverDispatch

/-- A mission as it is handed in. Without a start time it starts when it is
    handed in. -/
structure Draft where
  x1 : Single
  y1 : Single
  x2 : Single
  y2 : Single
  task : String
  duration : Int
  updateInterval : Int
  startTime : Option Int
  priority : Int
  deriving DecidableEq, Inhabited

/-- What keeps a draft from becoming a mission. -/
inductive DraftDefect where
  | priority (priority : Int)
  | area
  | task
  deriving DecidableEq, Inhabited

/-- The wording of a defect. -/
def DraftDefect.message : DraftDefect → String
  | priority p => "priority " ++ toString p ++ " outside 1..=5"
  | area => "area coordinates must be finite"
  | task => "task is empty"

/-- The longest duration of a mission in seconds: a week. -/
def maxDuration : Int := 7 * 24 * 3600

/-- The longest update interval of a mission in seconds: an hour. -/
def maxUpdateInterval : Int := 3600

namespace Draft

/-- The area is bounded. -/
def hasArea (d : Draft) : Bool :=
  d.x1.isFinite && d.y1.isFinite && d.x2.isFinite && d.y2.isFinite

/-- What keeps a draft from becoming a mission; of several defects the first
    in the order priority, area, task. -/
def defect? (d : Draft) : Option DraftDefect :=
  if ¬(1 ≤ d.priority ∧ d.priority ≤ 5) then some (.priority d.priority)
  else if !d.hasArea then some .area
  else if Text.isBlankText d.task then some .task
  else none

/-- The mission that a draft without defects becomes. -/
def mission (d : Draft) (id now : Int) : Mission :=
  { id, x1 := d.x1, y1 := d.y1, x2 := d.x2, y2 := d.y2, task := d.task
    duration := min maxDuration (positiveOr defaultDuration d.duration)
    updateInterval := min maxUpdateInterval (positiveOr defaultUpdateInterval d.updateInterval)
    startTime := d.startTime.getD now
    priority := d.priority }

/-- The mission that a draft becomes, or what keeps it from becoming one. -/
def toMission (d : Draft) (id now : Int) : Except DraftDefect Mission :=
  match d.defect? with
  | some defect => .error defect
  | none => .ok (d.mission id now)

end Draft

end RoverDispatch
