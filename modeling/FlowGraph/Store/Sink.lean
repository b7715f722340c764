import FlowGraph.Error
import FlowGraph.Run.Record

/-! # Sinks

A run reports how it goes to a sink, which keeps it in a store of its own kind. A sink may refuse
any call; it hands the store back in either case. -/

namespace FlowGraph

/-- What a run reports once it has a record. -/
inductive Report where
  | update (patch : RunPatch)
  | log (nodeId : Option String) (level : LogLevel) (message : String) (data : Option Json)

/-- Whether a report sets the status of the run. -/
def Report.setsStatus : Report → Bool
  | update patch => patch.status.isSome
  | log .. => false

/-- The calls of a sink over a store. -/
structure Sink (τ : Type) where
  /-- Makes the record of a new run, for which an unused identifier is offered. -/
  create (unused : String) (now : Timestamp) (workflowName : String) (input : Json) :
    τ → Except Error String × τ
  /-- Changes the record of a run. -/
  update (runId : String) (patch : RunPatch) : τ → Except Error Unit × τ
  /-- Adds an entry to the log of a run. -/
  log (runId : String) (nodeId : Option String) (level : LogLevel) (message : String)
    (data : Option Json) (now : Timestamp) : τ → Except Error Unit × τ

/-- Hands a report over. -/
def Sink.report {τ : Type} (k : Sink τ) (runId : String) (now : Timestamp) (r : Report)
    (store : τ) : Except Error Unit × τ :=
  match r with
  | .update patch => k.update runId patch store
  | .log nodeId level message data => k.log runId nodeId level message data now store

/-- The error of a call about a run that has no record. -/
def Error.runNotFound (runId : String) : Error := .storage ("Run not found: " ++ runId)

end FlowGraph
