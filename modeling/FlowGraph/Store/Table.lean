import FlowGraph.Json.Reader
import FlowGraph.Store.Sink

/-! # The store in tables

Keeps every run as a row of texts and signed numbers of 64 bits, and every log entry as another.
Values are written as text and read back from it.

* `TableStore.update` keeps a column that the patch does not give.
* `TableStore.recent` lists the runs of a workflow by the text of their start, the greatest first. -/

namespace FlowGraph

/-! ### Columns -/

namespace Column

/-- The number a column keeps: those of the upper half of 64 bits turn negative. -/
def ofNat (n : Nat) : Int := Int.bmod n (Nat.pow 2 64)

/-- The number read back; a negative one counts as zero. -/
def toNat (n : Int) : Nat := n.toNat

/-- The error of a text that is no value of its column. -/
def unreadable (reason : String) : Error :=
  .database ("Conversion error from type Text at index: 0, " ++ reason)

/-- The timestamp of a text. -/
def timestamp (s : String) : Except Error Timestamp :=
  match Timestamp.parseStrict s with
  | .ok t => .ok t
  | .error fault => .error (unreadable fault.message)

/-- The error of a JSON text with containers nested too deeply, by the place of the first bracket at
which they are. Columns are written on one line. -/
def tooDeep (place : Nat) : Error :=
  unreadable ("recursion limit exceeded at line 1 column " ++ toString place)

/-- The JSON value of a text. -/
def json (s : String) : Except Error Json :=
  match Json.parse s with
  | .ok j => .ok j
  | .error e =>
    match Json.Reader.excess? 0 0 .outside s.toList with
    | some place => .error (tooDeep place)
    | none => .error (unreadable e.message)

/-- The status of a text. -/
def status (s : String) : Except Error RunStatus :=
  match RunStatus.parse s with
  | .ok status => .ok status
  | .error reason => .error (unreadable (Error.storage reason).message)

/-- The level of a text. -/
def level (s : String) : Except Error LogLevel :=
  match LogLevel.parse s with
  | .ok level => .ok level
  | .error reason => .error (unreadable (Error.storage reason).message)

/-- The value of a column that may be empty. -/
def optional {α β : Type} (read : α → Except Error β) : Option α → Except Error (Option β)
  | none => .ok none
  | some a => (read a).map some

end Column

/-! ### Rows -/

/-- The row of a run. -/
structure RunRow where
  id : String
  workflowName : String
  status : String
  input : String
  startedAt : String
  finishedAt : Option String := none
  durationMs : Option Int := none
  nodesExecuted : Int := 0
  error : Option String := none
  lastCheckpoint : Option String := none

namespace RunRow

/-- The record of a row. -/
def record (r : RunRow) : Except Error RunRecord := do
  let status ← Column.status r.status
  let input ← Column.json r.input
  let startedAt ← Column.timestamp r.startedAt
  let finishedAt ← Column.optional Column.timestamp r.finishedAt
  .ok {
    id := r.id, workflowName := r.workflowName, status, input, startedAt, finishedAt
    durationMs := r.durationMs.map Column.toNat
    nodesExecuted := Column.toNat r.nodesExecuted
    error := r.error, lastCheckpoint := r.lastCheckpoint }

/-- Changes the columns that a patch gives. -/
def patch (p : RunPatch) (r : RunRow) : RunRow :=
  { r with
    status := (p.status.map RunStatus.text).getD r.status
    finishedAt := (p.finishedAt.map Timestamp.offsetText).or r.finishedAt
    durationMs := (p.durationMs.map Column.ofNat).or r.durationMs
    nodesExecuted := (p.nodesExecuted.map Column.ofNat).getD r.nodesExecuted
    error := p.error.or r.error
    lastCheckpoint := p.lastCheckpoint.or r.lastCheckpoint }

end RunRow

/-- The row of a log entry. -/
structure LogRow where
  runId : String
  nodeId : Option String
  level : String
  message : String
  data : Option String
  createdAt : String

/-- The entry of a row. -/
def LogRow.entry (r : LogRow) : Except Error LogEntry := do
  let level ← Column.level r.level
  let data ← Column.optional Column.json r.data
  let timestamp ← Column.timestamp r.createdAt
  .ok { runId := r.runId, nodeId := r.nodeId, level, message := r.message, data, timestamp }

/-! ### The store -/

/-- The rows of both tables, the last one first. -/
structure TableStore where
  runRows : List RunRow := []
  logRows : List LogRow := []

namespace TableStore

/-- Whether a run has a row. -/
def hasRun (t : TableStore) (runId : String) : Bool := t.runRows.any fun r => r.id == runId

/-- The record of a run. -/
def run? (t : TableStore) (runId : String) : Except Error (Option RunRecord) :=
  Column.optional RunRow.record (t.runRows.find? fun r => r.id == runId)

/-- The log of a run in the order in which it was written. -/
def logs (t : TableStore) (runId : String) : Except Error (List LogEntry) :=
  (t.logRows.filter fun r => r.runId == runId).reverse.mapM LogRow.entry

/-- The first of the rows; a limit that a column shows as negative is none. -/
def limited (limit : Nat) (rows : List RunRow) : List RunRow :=
  if Column.ofNat limit < 0 then rows else rows.take limit

/-- The runs of a workflow that started last, the latest first. -/
def recent (t : TableStore) (workflowName : String) (limit : Nat) : Except Error (List RunRecord) :=
  (limited limit ((t.runRows.filter fun r => r.workflowName == workflowName).mergeSort
    fun a b => b.startedAt ≤ a.startedAt)).mapM RunRow.record

/-- Makes the record of a new run. -/
def create (unused : String) (now : Timestamp) (workflowName : String) (input : Json)
    (t : TableStore) : Except Error String × TableStore :=
  (.ok unused, { t with
    runRows := {
      id := unused, workflowName, status := RunStatus.running.text, input := input.compact
      startedAt := now.offsetText } :: t.runRows })

/-- Changes the record of a run. -/
def update (runId : String) (patch : RunPatch) (t : TableStore) : Except Error Unit × TableStore :=
  if t.hasRun runId then
    (.ok (), { t with
      runRows := t.runRows.map fun r => if r.id == runId then r.patch patch else r })
  else (.error (.runNotFound runId), t)

/-- Adds an entry to the log of a run. -/
def log (runId : String) (nodeId : Option String) (level : LogLevel) (message : String)
    (data : Option Json) (now : Timestamp) (t : TableStore) : Except Error Unit × TableStore :=
  if t.hasRun runId then
    (.ok (), { t with
      logRows := ⟨runId, nodeId, level.text, message, data.map Json.compact, now.offsetText⟩ ::
        t.logRows })
  else (.error (.database "FOREIGN KEY constraint failed"), t)

/-- The sink over the store. -/
def sink : Sink TableStore := { create, update, log }

/-- The error of a change to a store that cannot be changed. -/
def readOnly : Error := .database "attempt to write a readonly database"

/-- The sink over a store that cannot be changed. -/
def readOnlySink : Sink TableStore where
  create _ _ _ _ t := (.error readOnly, t)
  update _ _ t := (.error readOnly, t)
  log _ _ _ _ _ _ t := (.error readOnly, t)

end TableStore

end FlowGraph
