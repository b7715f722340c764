import FlowGraph.Json.Basic
import FlowGraph.Timestamp

/-! # Run records

A run leaves a record of how it went and log entries of what happened in it. A record is changed by
patches; a field that a patch does not give stays as it is (`RunPatch.apply`). -/

namespace FlowGraph

/-! ### Status and level -/

/-- How a run stands. -/
inductive RunStatus where
  | running | completed | failed
deriving DecidableEq

namespace RunStatus

/-- The name of a status. -/
def text : RunStatus → String
  | running => "running"
  | completed => "completed"
  | failed => "failed"

/-- The status of a name. -/
def parse (s : String) : Except String RunStatus :=
  match [running, completed, failed].find? fun status => status.text == s with
  | some status => .ok status
  | none => .error ("Unknown status: " ++ s)

end RunStatus

/-- How much a log entry matters. -/
inductive LogLevel where
  | debug | info | warn | error
deriving DecidableEq

namespace LogLevel

/-- The name of a level. -/
def text : LogLevel → String
  | debug => "debug"
  | info => "info"
  | warn => "warn"
  | error => "error"

/-- The level of a name. -/
def parse (s : String) : Except String LogLevel :=
  match [debug, info, warn, error].find? fun level => level.text == s with
  | some level => .ok level
  | none => .error ("Unknown log level: " ++ s)

end LogLevel

/-! ### Records -/

/-- The record of a run. -/
structure RunRecord where
  id : String
  workflowName : String
  status : RunStatus := .running
  input : Json
  startedAt : Timestamp
  finishedAt : Option Timestamp := none
  durationMs : Option Nat := none
  nodesExecuted : Nat := 0
  error : Option String := none
  /-- The last node whose handler completed. -/
  lastCheckpoint : Option String := none

/-- The record as an object. -/
def RunRecord.toJson (r : RunRecord) : Json := .ofFields [
  ("id", .str r.id), ("workflow_name", .str r.workflowName), ("status", .str r.status.text),
  ("input", r.input), ("started_at", .str r.startedAt.text),
  ("finished_at", .ofText? (r.finishedAt.map Timestamp.text)),
  ("duration_ms", .ofOption (r.durationMs.map Json.ofNat)),
  ("nodes_executed", .ofNat r.nodesExecuted), ("error", .ofText? r.error),
  ("last_checkpoint", .ofText? r.lastCheckpoint)]

/-! ### Patches -/

/-- A change of a record. -/
structure RunPatch where
  status : Option RunStatus := none
  finishedAt : Option Timestamp := none
  durationMs : Option Nat := none
  nodesExecuted : Option Nat := none
  error : Option String := none
  lastCheckpoint : Option String := none

namespace RunPatch

/-- The change when a run completes. -/
def completed (nodesExecuted durationMs : Nat) (now : Timestamp) : RunPatch where
  status := some .completed
  finishedAt := some now
  durationMs := some durationMs
  nodesExecuted := some nodesExecuted

/-- The change when a run fails. -/
def failed (error : String) (lastCheckpoint : Option String) (nodesExecuted durationMs : Nat)
    (now : Timestamp) : RunPatch where
  status := some .failed
  finishedAt := some now
  durationMs := some durationMs
  nodesExecuted := some nodesExecuted
  error := some error
  lastCheckpoint := lastCheckpoint

/-- The change after each node. -/
def progress (nodesExecuted : Nat) (lastCheckpoint : String) : RunPatch where
  nodesExecuted := some nodesExecuted
  lastCheckpoint := some lastCheckpoint

/-- Changes a record. -/
def apply (p : RunPatch) (r : RunRecord) : RunRecord :=
  { r with
    status := p.status.getD r.status
    finishedAt := p.finishedAt.or r.finishedAt
    durationMs := p.durationMs.or r.durationMs
    nodesExecuted := p.nodesExecuted.getD r.nodesExecuted
    error := p.error.or r.error
    lastCheckpoint := p.lastCheckpoint.or r.lastCheckpoint }

end RunPatch

/-! ### Log entries -/

/-- A line in the log of a run. -/
structure LogEntry where
  runId : String
  /-- The node it is about; none if it is about the whole run. -/
  nodeId : Option String
  level : LogLevel
  message : String
  data : Option Json
  timestamp : Timestamp

/-- The entry as an object. -/
def LogEntry.toJson (e : LogEntry) : Json := .ofFields [
  ("run_id", .str e.runId), ("node_id", .ofText? e.nodeId), ("level", .str e.level.text),
  ("message", .str e.message), ("data", .ofOption e.data), ("timestamp", .str e.timestamp.text)]

end FlowGraph
