import FlowGraph.Engine.Walk

/-! # Runs

A run makes its record, checks the workflow, walks the graph from the first trigger and closes the
record. A workflow that does not pass the check fails before any node is visited; a record that
cannot be made fails the run before that.

`Engine.runWith` gives the outcome together with the engine, the session and the store after it,
and the journal. -/

namespace FlowGraph

/-! ### Outcomes -/

/-- A run that completed. -/
structure RunSuccess where
  executionId : String
  durationMs : Nat
  nodesExecuted : Nat

/-- The outcome, field by field. -/
def RunSuccess.fields (r : RunSuccess) : List (String × Json) := [
  ("success", .bool true), ("executionId", .str r.executionId),
  ("durationMs", .ofNat r.durationMs), ("nodesExecuted", .ofNat r.nodesExecuted)]

/-- The outcome as an object. -/
def RunSuccess.toJson (r : RunSuccess) : Json := .ofFields r.fields

/-- A run that did not complete, with everything recorded up to its failure. -/
structure RunFailure where
  executionId : String
  error : Error
  errors : List NodeError
  lastCheckpoint : Option String
  nodesExecuted : Nat
  durationMs : Nat

namespace RunFailure

/-- The wording of a failure. -/
def message (f : RunFailure) : String :=
  "Execution " ++ f.executionId ++ " failed: " ++ f.error.message

/-- The failure as an object. -/
def toJson (f : RunFailure) : Json := .ofFields [
  ("success", .bool false), ("executionId", .str f.executionId),
  ("error", f.error.codeAndMessage), ("errors", .arr (f.errors.map NodeError.toJson)),
  ("lastCheckpoint", .ofText? f.lastCheckpoint), ("nodesExecuted", .ofNat f.nodesExecuted),
  ("durationMs", .ofNat f.durationMs)]

end RunFailure

/-- What is there after a run. -/
structure RunReport (σ τ : Type) where
  outcome : Except RunFailure RunSuccess
  engine : Engine σ τ
  session : Session σ
  store : τ
  /-- What the run did, the last first. -/
  journal : List Event

namespace Engine

variable {σ τ : Type}

/-- The state of a run at its start. -/
def initialState (e : Engine σ τ) (context : RunContext) (session : Session σ) (store : τ) :
    RunState σ τ :=
  { context, breakers := e.breakers, session, store }

/-- The report of a run that has come to its end. -/
def finish (e : Engine σ τ) (outcome : Except RunFailure RunSuccess) (s : RunState σ τ) :
    RunReport σ τ where
  outcome
  engine := { e with breakers := s.breakers, context := s.context }
  session := s.session
  store := s.store
  journal := s.journal

/-- The milliseconds since a run started. -/
def duration (started : Nat) (s : RunState σ τ) : Nat := s.session.elapsed - started

/-- Closes a run that failed. -/
def fail (w : Walk σ τ) (started : Nat) (error : Error) (s : RunState σ τ) : RunReport σ τ :=
  let c := s.context
  let durationMs := duration started s
  let patch := RunPatch.failed error.message c.lastCompleted c.nodesExecuted durationMs s.now
  let s := (w.report (.update patch) s).count (.run RunStatus.failed.text)
  w.engine.finish (.error {
    executionId := c.executionId, error, errors := c.errors
    lastCheckpoint := c.lastCompleted, nodesExecuted := c.nodesExecuted, durationMs }) s

/-- Closes a run that completed. -/
def succeed (w : Walk σ τ) (started : Nat) (s : RunState σ τ) : RunReport σ τ :=
  let c := s.context
  let durationMs := duration started s
  let patch := RunPatch.completed c.nodesExecuted durationMs s.now
  let s := (w.report (.update patch) s).count (.run RunStatus.completed.text)
  w.engine.finish (.ok {
    executionId := c.executionId, durationMs, nodesExecuted := c.nodesExecuted }) s

/-- The graph of a workflow that passes the check, and its triggers. -/
def prepare (e : Engine σ τ) (workflow : Workflow) :
    Except StructuralError (Graph × List String) :=
  match validate workflow.nodes workflow.edges e.settings with
  | .error fault => .error fault
  | .ok diagnostics => match Graph.build workflow.nodes workflow.edges with
    | .error fault => .error fault
    | .ok graph => .ok (graph, diagnostics.triggers)

/-- Walks from the first trigger. There are never more visits under way than nodes. -/
def walkFrom (w : Walk σ τ) (triggers : List String) (input : Json) (s : RunState σ τ) :
    Except Error Unit × RunState σ τ :=
  match triggers with
  | [] => (.error (.structural .noTrigger), s)
  | trigger :: _ => w.visit w.graph.nodes.length [] .start trigger input s

/-- Runs a workflow whose record is made. -/
def runRecorded (e : Engine σ τ) (nested : NestedRun σ) (workflow : Workflow) (input : Json)
    (runId : Option String) (s : RunState σ τ) : RunReport σ τ :=
  let started := s.session.elapsed
  match e.prepare workflow with
  | .error fault => fail ⟨⟨[], []⟩, workflow.name, e, runId, nested⟩ started (.structural fault) s
  | .ok (graph, triggers) =>
    let w : Walk σ τ := ⟨graph, workflow.name, e, runId, nested⟩
    match walkFrom w triggers input (w.log none .info "Run started" none s) with
    | (.error error, s) => fail w started error s
    | (.ok _, s) => succeed w started s

/-- Runs a workflow, with a given way to run the workflows inside it. -/
def runWith (e : Engine σ τ) (nested : NestedRun σ) (workflow : Workflow) (input : Json)
    (session : Session σ) (store : τ) : RunReport σ τ :=
  let id := session.upcomingId
  let started := session.startRun e.depth
  let contextOf := fun id => ({ executionId := id, vars := workflow.vars } : RunContext)
  match e.sink with
  | none =>
    e.runRecorded nested workflow input none (e.initialState (contextOf id) started store)
  | some sink =>
    match sink.create id session.now workflow.name input store with
    | (.ok runId, store) =>
      e.runRecorded nested workflow input (some runId)
        (e.initialState (contextOf runId) started store)
    | (.error error, store) =>
      fail ⟨⟨[], []⟩, workflow.name, e, none, nested⟩ session.elapsed error
        (e.initialState { executionId := id } started store)

end Engine

end FlowGraph
