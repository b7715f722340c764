import FlowGraph.Store.Table

/-! # Database files

The tables of a store as a JSON text: one array for each row, its columns in order.

* `TableStore.fileText` writes the tables.
* `TableStore.ofFileText?` reads them; an empty text holds no rows, any other text that is not a
  database is refused. -/

namespace FlowGraph

/-! ### Columns -/

namespace Column

/-- A text that may be missing, as a JSON value. -/
def ofText? : Json → Option (Option String)
  | .null => some none
  | .str s => some (some s)
  | _ => none

/-- A number that may be missing, as a JSON value. -/
def ofInt? : Json → Option (Option Int)
  | .null => some none
  | .int n => some (some n)
  | _ => none

end Column

/-! ### Rows -/

/-- The columns of a row. -/
def RunRow.toJson (r : RunRow) : Json := .arr [
  .str r.id, .str r.workflowName, .str r.status, .str r.input, .str r.startedAt,
  .ofText? r.finishedAt, .ofOption (r.durationMs.map Json.int), .int r.nodesExecuted,
  .ofText? r.error, .ofText? r.lastCheckpoint]

/-- The row of its columns. -/
def RunRow.ofJson? : Json → Option RunRow
  | .arr [.str id, .str workflowName, .str status, .str input, .str startedAt, finishedAt,
      durationMs, .int nodesExecuted, error, lastCheckpoint] => do
    let finishedAt ← Column.ofText? finishedAt
    let durationMs ← Column.ofInt? durationMs
    let error ← Column.ofText? error
    let lastCheckpoint ← Column.ofText? lastCheckpoint
    some {
      id, workflowName, status, input, startedAt, finishedAt, durationMs, nodesExecuted, error
      lastCheckpoint }
  | _ => none

/-- The columns of a row. -/
def LogRow.toJson (r : LogRow) : Json := .arr [
  .str r.runId, .ofText? r.nodeId, .str r.level, .str r.message, .ofText? r.data, .str r.createdAt]

/-- The row of its columns. -/
def LogRow.ofJson? : Json → Option LogRow
  | .arr [.str runId, nodeId, .str level, .str message, data, .str createdAt] => do
    let nodeId ← Column.ofText? nodeId
    let data ← Column.ofText? data
    some { runId, nodeId, level, message, data, createdAt }
  | _ => none

/-! ### Files -/

namespace TableStore

/-- The tables as a text. -/
def fileText (t : TableStore) : String := (Json.ofFields [
  ("runs", .arr (t.runRows.map RunRow.toJson)),
  ("logs", .arr (t.logRows.map LogRow.toJson))]).compact

/-- The tables of a text. -/
def ofFileText? (text : String) : Option TableStore :=
  if text.isEmpty then some {}
  else do
    let j ← (Json.parse text).toOption
    let runRows ← (← (j.field "runs").asItems?).mapM RunRow.ofJson?
    let logRows ← (← (j.field "logs").asItems?).mapM LogRow.ofJson?
    some { runRows, logRows }

end TableStore

end FlowGraph
