import RoverDispatch.Wire.FieldTable

/-!
# Payload Schemas

Which fields a payload is made of.

Four payloads are written as named fields. Each has its list of names, the
fields it is written as in the order of the names, and a reader that asks a
field table for every name. The names are part of the wire format and stay in
the language they were chosen in.

A schema is the name of such a payload, so that reassembly can ask for the
fields of a schema without knowing what they mean.

## Main definitions

* `Schema`: A payload made of named fields.
* `Schema.fieldNames`: The names that it needs.
* `Mission.toFields`, `Mission.read` and their like: Writing and reading.
* `Payload.toFields`, `Schema.read`: The same for any schema.
-/

namespace RoverDispatch

/-- A payload made of named fields. -/
inductive Schema where
  | mission
  | progress
  | ack
  | error
  deriving DecidableEq, Inhabited

/-- The payload that a schema describes. -/
def Schema.tag : Schema → PayloadTag
  | mission => .mission
  | progress => .progress
  | ack => .ack
  | error => .error

/-- The name of a schema in diagnostics. -/
def Schema.name (s : Schema) : String := s.tag.name

/-- The names that a payload of a schema needs, in the order they are written. -/
def Schema.fieldNames : Schema → List String
  | mission =>
    ["idMissao", "x1", "y1", "x2", "y2", "tarefa", "duracaoMissao", "intervaloAtualizacao",
      "inicioMissao", "prioridade"]
  | progress => ["idMissao", "tempoDecorrido", "progressoPercentagem"]
  | ack => ["missingCount", "missing", "finalAck"]
  | error =>
    ["idMissao", "codigoErro", "descricao", "progressoAtual", "bateria", "posicaoX",
      "posicaoY", "timestamp"]

namespace Mission

/-- A mission as fields. -/
def toFields (m : Mission) : List Field :=
  [.int32 "idMissao" m.id,
    .single "x1" m.x1,
    .single "y1" m.y1,
    .single "x2" m.x2,
    .single "y2" m.y2,
    .text "tarefa" m.task,
    .int64 "duracaoMissao" m.duration,
    .int64 "intervaloAtualizacao" m.updateInterval,
    .int64 "inicioMissao" m.startTime,
    .int32 "prioridade" m.priority]

/-- The mission in a field table. -/
def read (t : FieldTable) : Except WireError Mission := do
  let id ← t.int32 "idMissao"
  let x1 ← t.single "x1"
  let y1 ← t.single "y1"
  let x2 ← t.single "x2"
  let y2 ← t.single "y2"
  let task ← t.text "tarefa"
  let duration ← t.int64 "duracaoMissao"
  let updateInterval ← t.int64 "intervaloAtualizacao"
  let startTime ← t.int64 "inicioMissao"
  let priority ← t.int32 "prioridade"
  return { id, x1, y1, x2, y2, task, duration, updateInterval, startTime, priority }

end Mission

namespace Progress

/-- Progress as fields. -/
def toFields (p : Progress) : List Field :=
  [.int32 "idMissao" p.mission,
    .int64 "tempoDecorrido" p.elapsed,
    .single "progressoPercentagem" p.percent]

/-- The progress in a field table. -/
def read (t : FieldTable) : Except WireError Progress := do
  let mission ← t.int32 "idMissao"
  let elapsed ← t.int64 "tempoDecorrido"
  let percent ← t.single "progressoPercentagem"
  return { mission, elapsed, percent }

end Progress

namespace Ack

/-- An acknowledgement as fields. -/
def toFields (a : Ack) : List Field :=
  [.int32 "missingCount" a.missing.length,
    .ints "missing" a.missing,
    .bool "finalAck" a.final]

/-- The acknowledgement in a field table; the announced count has to be the
    length of the list. -/
def read (t : FieldTable) : Except WireError Ack := do
  let count ← t.int32 "missingCount"
  let missing ← t.ints "missing"
  if count ≠ missing.length then .error (.malformedField "missingCount" .countMismatch)
  else
    let final ← t.bool "finalAck"
    return { missing, final }

end Ack

namespace ErrorReport

/-- An error report as fields. -/
def toFields (e : ErrorReport) : List Field :=
  [.int32 "idMissao" e.mission,
    .int32 "codigoErro" e.fault.code,
    .text "descricao" e.description,
    .single "progressoAtual" e.progress,
    .single "bateria" e.battery,
    .single "posicaoX" e.x,
    .single "posicaoY" e.y,
    .int64 "timestamp" e.timestamp]

/-- The error report in a field table. -/
def read (t : FieldTable) : Except WireError ErrorReport := do
  let mission ← t.int32 "idMissao"
  let code ← t.int32 "codigoErro"
  let description ← t.text "descricao"
  let progress ← t.single "progressoAtual"
  let battery ← t.single "bateria"
  let x ← t.single "posicaoX"
  let y ← t.single "posicaoY"
  let timestamp ← t.int64 "timestamp"
  return { mission, fault := .ofCode code, description, progress, battery, x, y, timestamp }

end ErrorReport

/-- The fields of a payload; the empty one and a piece of a mission have none
    of their own. -/
def Payload.toFields : Payload → List Field
  | empty => []
  | mission m => m.toFields
  | progress p => p.toFields
  | ack a => a.toFields
  | error e => e.toFields
  | fragment _ => []

/-- The payload of a schema in a field table. -/
def Schema.read (s : Schema) (t : FieldTable) : Except WireError Payload :=
  match s with
  | mission => (Mission.read t).map Payload.mission
  | progress => (Progress.read t).map Payload.progress
  | ack => (Ack.read t).map Payload.ack
  | error => (ErrorReport.read t).map Payload.error

end RoverDispatch
