import RoverDispatch.Fleet.Basic
import RoverDispatch.Json.Document

/-!
# Snapshots

A fleet as a JSON document.

A snapshot lists the rovers and the missions in the order of their numbers,
with everything that is known of them. What a record does not have is null.

## Main definitions

* `Fleet.snapshot`: The document.
-/

namespace RoverDispatch

/-- A rover in a snapshot. -/
def RoverRecord.document (id : Int) (r : RoverRecord) : Document :=
  .object [
    ("id", .integer id),
    ("endpoint", .optional (fun e => .text e.toText) r.endpoint),
    ("status", .text r.state.name),
    ("mission_id", .optional .integer r.state.mission?),
    ("progress", .single r.progress),
    ("battery", .single r.battery),
    ("x", .single r.x),
    ("y", .single r.y),
    ("fault_since_ms", .optional (fun since => .integer since) r.state.faultSince?)]

/-- A mission as it was handed in. -/
def Mission.document (m : Mission) : Document :=
  .object [
    ("mission_id", .integer m.id),
    ("x1", .single m.x1),
    ("y1", .single m.y1),
    ("x2", .single m.x2),
    ("y2", .single m.y2),
    ("task", .text m.task),
    ("duration_secs", .integer m.duration),
    ("update_interval_secs", .integer m.updateInterval),
    ("start_time", .integer m.startTime),
    ("priority", .integer m.priority)]

/-- A failure in a snapshot. -/
def MissionFailure.document (failure : MissionFailure) : Document :=
  .object [
    ("code", .optional .integer failure.code),
    ("description", .text failure.description)]

/-- A mission in a snapshot. -/
def MissionRecord.document (m : MissionRecord) : Document :=
  .object [
    ("mission", m.mission.document),
    ("status", .text m.state.name),
    ("progress", .single m.progress),
    ("elapsed_secs", .integer m.elapsed),
    ("rover_id", .optional .integer m.state.rover?),
    ("failure", .optional MissionFailure.document m.state.failure?),
    ("attempts", .integer m.attempts),
    ("progress_reports", .integer m.reports)]

/-- A fleet as a document. -/
def Fleet.snapshot (f : Fleet) : Document :=
  .object [
    ("rovers", .list (f.rovers.entries.map (fun e => e.2.document e.1))),
    ("missions", .list (f.missions.values.map MissionRecord.document))]

end RoverDispatch
