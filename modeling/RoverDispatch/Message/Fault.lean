/-!
# Faults

Why a rover could not finish its mission.

A fault travels as a number. The numbers with a meaning are named; any other
is carried as it came, so a fault reported by a newer rover is stored and
passed on unchanged rather than folded into the unknown one.

## Main definitions

* `Fault`: A named fault or the number of one without a name.
* `Fault.code`, `Fault.ofCode`: A fault as a number, and back.
* `Fault.describe`: The description sent with a report.
-/

namespace RoverDispatch

/-- Why a rover could not finish its mission. -/
inductive Fault where
  | batteryCritical
  | batteryLow
  | obstacle
  | communication
  | hardware
  | missionTimeout
  | unknown
  | other (code : Int)
  deriving DecidableEq, Inhabited

namespace Fault

/-- The number that a fault travels as. -/
def code : Fault → Int
  | batteryCritical => 1
  | batteryLow => 2
  | obstacle => 3
  | communication => 4
  | hardware => 5
  | missionTimeout => 6
  | unknown => 99
  | other code => code

/-- The fault that a number stands for. -/
def ofCode (code : Int) : Fault :=
  if code = 1 then batteryCritical
  else if code = 2 then batteryLow
  else if code = 3 then obstacle
  else if code = 4 then communication
  else if code = 5 then hardware
  else if code = 6 then missionTimeout
  else if code = 99 then unknown
  else other code

/-- The name of a fault; one without a name shows its number. -/
def label : Fault → String
  | batteryCritical => "BatteryCritical"
  | batteryLow => "BatteryLow"
  | obstacle => "Obstacle"
  | communication => "Communication"
  | hardware => "Hardware"
  | missionTimeout => "MissionTimeout"
  | unknown => "Unknown"
  | other code => "Other(" ++ toString code ++ ")"

/-- What a fault is called in a report. -/
def summary : Fault → String
  | batteryCritical => "Critical battery (<10%)"
  | batteryLow => "Low battery"
  | obstacle => "Obstacle detected"
  | communication => "Communication failure"
  | hardware => "Hardware failure"
  | missionTimeout => "Mission timed out"
  | unknown => "Unknown error"
  | other _ => "Unknown error"

/-- The summary, followed by a detail if there is one to tell. -/
def describe (fault : Fault) (detail : Option String) : String :=
  match detail with
  | none => fault.summary
  | some detail => if detail = "" then fault.summary else fault.summary ++ " - " ++ detail

end Fault

end RoverDispatch
