import RoverDispatch.Fleet.Draft
import RoverDispatch.Json.Record

/-!
# Draft Files

Lists of drafts written as JSON.

The times of a draft may be left out; everything else has to be there. Whether
a draft makes a mission is not looked at here.

## Main definitions

* `draftColumns`: The keys of a draft.
* `readDrafts`: The drafts in a text.
-/

namespace RoverDispatch

open Json

/-- The keys of a draft, in the order of a draft that is written as a list. -/
@[reducible]
def draftColumns : List Column :=
  [{ key := "x1", shape := .single },
    { key := "y1", shape := .single },
    { key := "x2", shape := .single },
    { key := "y2", shape := .single },
    { key := "task", shape := .text },
    { key := "duration_secs", shape := .int64, absent := some (0 : Int) },
    { key := "update_interval_secs", shape := .int64, absent := some (0 : Int) },
    { key := "start_time", shape := .nullable .int64, absent := some (none : Option Int) },
    { key := "priority", shape := .int32 }]

/-- The draft whose values stand in a row. -/
def Draft.ofRow : Row draftColumns → Draft
  | (x1, y1, x2, y2, task, duration, updateInterval, startTime, priority, ()) =>
    { x1, y1, x2, y2, task, duration, updateInterval, startTime, priority }

/-- The drafts in a text. -/
def readDrafts (text : String) : Except JsonError (List Draft) :=
  (readAll (scanList (scanRecord draftColumns)) text).map (·.map Draft.ofRow)

end RoverDispatch
