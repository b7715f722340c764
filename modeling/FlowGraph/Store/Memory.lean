import FlowGraph.Store.Sink

/-! # The store in memory

Keeps the records and the log entries as they are. Nothing is kept for a run that has no record. -/

namespace FlowGraph

/-- Records and log entries, both in the order in which they came, the last one first. -/
structure MemoryStore where
  records : List RunRecord := []
  entries : List LogEntry := []

namespace MemoryStore

/-- The record of a run. -/
def run? (m : MemoryStore) (runId : String) : Option RunRecord :=
  m.records.find? fun r => r.id == runId

/-- Whether a run has a record. -/
def hasRun (m : MemoryStore) (runId : String) : Bool := m.records.any fun r => r.id == runId

/-- All records, the oldest first. -/
def runs (m : MemoryStore) : List RunRecord :=
  m.records.reverse.mergeSort fun a b => a.startedAt.le b.startedAt

/-- The log of a run in the order in which it was written. -/
def logs (m : MemoryStore) (runId : String) : List LogEntry :=
  (m.entries.filter fun e => e.runId == runId).reverse

/-- Makes the record of a new run. -/
def create (unused : String) (now : Timestamp) (workflowName : String) (input : Json)
    (m : MemoryStore) : Except Error String × MemoryStore :=
  (.ok unused, { m with
    records := { id := unused, workflowName, input, startedAt := now } :: m.records })

/-- Changes the record of a run. -/
def update (runId : String) (patch : RunPatch) (m : MemoryStore) : Except Error Unit × MemoryStore :=
  if m.hasRun runId then
    (.ok (), { m with
      records := m.records.map fun r => if r.id == runId then patch.apply r else r })
  else (.error (.runNotFound runId), m)

/-- Adds an entry to the log of a run. -/
def log (runId : String) (nodeId : Option String) (level : LogLevel) (message : String)
    (data : Option Json) (now : Timestamp) (m : MemoryStore) : Except Error Unit × MemoryStore :=
  if m.hasRun runId then
    (.ok (), { m with
      entries := ⟨runId, nodeId, level, message, data, now⟩ :: m.entries })
  else (.error (.runNotFound runId), m)

/-- The sink over the store. -/
def sink : Sink MemoryStore := { create, update, log }

end MemoryStore

end FlowGraph
