import FlowGraph.Engine.Basic
import FlowGraph.Workflow.Graph

/-! # The walk through a graph

A run walks the graph from a trigger, depth first, one handler after another. `Walk.visit` visits a
node: it calls the handler of the node and then visits the children that the control flow of the
handler selects, each with the output of the node. A failure goes to the first child that is an
error handler; without one it ends the walk.

* `Walk.sweep` goes through children in order and stops at the first failure, `Walk.passes` repeats
  that for the passes of a loop.
* `Walk.dispatch` selects the children of a node that completed, `Walk.recover` the child of a node
  that failed.
* Whatever a sink answers, the walk goes on in the same way. -/

namespace FlowGraph

/-- What does not change while a run walks its graph. -/
structure Walk (σ τ : Type) where
  graph : Graph
  workflowName : String
  engine : Engine σ τ
  /-- The name of the record of the run, if there is one. -/
  runId : Option String
  nested : NestedRun σ

/-- A step of a walk: it goes on or ends with an error. -/
abbrev Step (σ τ : Type) := RunState σ τ → Except Error Unit × RunState σ τ

namespace Walk

variable {σ τ : Type}

/-- The settings of the run. -/
def settings (w : Walk σ τ) : EngineSettings := w.engine.settings

/-! ### Reports -/

/-- Tells the sink something. A refusal changes nothing. -/
def report (w : Walk σ τ) (r : Report) (s : RunState σ τ) : RunState σ τ :=
  match w.engine.sink, w.runId with
  | some sink, some id => { (s.note (.reported r)) with store := (sink.report id s.now r s.store).2 }
  | _, _ => s

/-- Adds an entry to the log of the run. -/
def log (w : Walk σ τ) (nodeId : Option String) (level : LogLevel) (message : String)
    (data : Option Json) (s : RunState σ τ) : RunState σ τ :=
  w.report (.log nodeId level message data) s

/-! ### Calling the handler of a node -/

/-- The snapshot that the handler of a node sees. -/
def nodeContext (w : Walk σ τ) (node : Workflow.Node) (input : Json) (c : RunContext) :
    NodeContext where
  input
  vars := .obj c.vars
  outputs := c.outputs
  nodeId := node.id
  executionId := c.executionId
  workflowName := w.workflowName
  userId := w.engine.userId
  depth := w.engine.depth
  settings := w.settings
  credentials := w.engine.credentials

/-- Calls a handler. -/
def call (w : Walk σ τ) (node : Workflow.Node) (h : Handler σ) (ctx : NodeContext)
    (s : RunState σ τ) : Except Error NodeResult × RunState σ τ :=
  let (outcome, session) := h.invoke w.nested node.config ctx s.session
  (outcome, { (s.note (.invoked ctx)) with session })

/-- Calls a handler under the breaker of its resource, if it names one. -/
def callGuarded (w : Walk σ τ) (node : Workflow.Node) (h : Handler σ) (ctx : NodeContext)
    (s : RunState σ τ) : Except Error NodeResult × RunState σ τ :=
  match h.resource? node.config ctx with
  | none => w.call node h ctx s
  | some key =>
    let (outcome, breakers, s) := s.breakers.execute key (w.call node h ctx) s
    (outcome, { s with breakers })

/-- How the counters name an outcome. -/
def statusText {α : Type} : Except Error α → String
  | .ok _ => "success"
  | .error (.circuitOpen _) => "circuit_open"
  | .error _ => "failed"

/-- Keeps the output of a node. -/
def complete (w : Walk σ τ) (id : String) (output : Json) (s : RunState σ τ) : RunState σ τ :=
  let s := (s.note (.completed id output)).onContext (·.complete id output)
  let s := w.report (.update (.progress s.context.nodesExecuted id)) s
  w.log (some id) .info "Node completed" (some output) s

/-- Gets the output of a node. A configuration that lacks a field keeps the handler from being
called. -/
def invoke (w : Walk σ τ) (node : Workflow.Node) (h : Handler σ) (input : Json)
    (s : RunState σ τ) : Except Error Json × RunState σ τ :=
  match missingField? node.config h.requiredFields with
  | some field => (.error (.missingField node.id field), s)
  | none =>
    let (outcome, s) := w.callGuarded node h (w.nodeContext node input s.context) s
    let s := s.count (.node node.tag (statusText outcome))
    match outcome with
    | .error e => (.error e, s)
    | .ok result => (.ok result.data, w.complete node.id result.data s)

/-! ### Going on to other nodes -/

/-- How a walk goes on: a cause, a node and its input. -/
abbrev Onward (σ τ : Type) := Cause → String → Json → Step σ τ

/-- Goes through nodes in order, up to the first failure. -/
def sweep (go : String → Step σ τ) : List String → Step σ τ
  | [], s => (.ok (), s)
  | id :: rest, s =>
    match go id s with
    | (.error e, s) => (.error e, s)
    | (.ok _, s) => sweep go rest s

/-- Makes the last `left` of `total` passes through nodes, up to the first failure. -/
def passes (go : Nat → String → Step σ τ) (children : List String) (total : Nat) : Nat → Step σ τ
  | 0, s => (.ok (), s)
  | left + 1, s =>
    let index := total - (left + 1)
    match sweep (go index) children (s.onContext (·.setIteration (index + 1))) with
    | (.error e, s) => (.error e, s)
    | (.ok _, s) => passes go children total left s

/-- The children that take part in normal dispatch. -/
def flowChildren (w : Walk σ τ) (id : String) : List String := w.graph.flowChildren w.settings id

/-- The first of the children whose node fulfils a condition. -/
def select? (w : Walk σ τ) (id : String) (p : Workflow.Node → Bool) : Option String :=
  (w.flowChildren id).find? fun child => (w.graph.node? child).any p

/-- The child that stands in for a node that failed. -/
def recovery? (w : Walk σ τ) (id : String) : Option String :=
  (w.graph.children id).find? (w.graph.isErrorHandler w.settings)

/-- What an error handler receives. -/
def failureInput (id : String) (e : Error) : Json := .ofFields [
  ("error", .str e.message), ("failedNode", .str id), ("code", .str e.code)]

/-- Notes a failure of a node and hands it to an error handler, if there is one. -/
def recover (w : Walk σ τ) (go : Onward σ τ) (id : String) (e : Error) (s : RunState σ τ) :
    Except Error Unit × RunState σ τ :=
  let s := s.onContext (·.recordError id e.message s.now)
  let s := w.log (some id) .error e.message (some (.ofFields [("code", .str e.code)])) s
  match w.recovery? id with
  | some handler => go (.failure id) handler (failureInput id e) s
  | none => (.error e, s)

/-- What the children of a loop receive in a pass. -/
def passInput (output : Json) (index total : Nat) (item : Option Json) : Json :=
  let start : Fields Json := match output with
    | .obj fields => fields
    | other => [("data", other)]
  let marked := Fields.insert "isLastIteration" (.bool (index + 1 == total))
    (Fields.insert "currentIteration" (.ofNat (index + 1)) start)
  match item with
  | none => .obj marked
  | some item => .obj (Fields.insert "item" item marked)

/-- How many passes a loop with the given output makes. -/
def passCount (output : Json) : Nat := ((output.get? "iterations").bind Json.asNat?).getD 0

/-- The item of a pass. -/
def passItem? (output : Json) (index : Nat) : Option Json :=
  ((output.get? "items").bind Json.asItems?).bind fun items => items[index]?

/-- Enters a loop. -/
def enterLoop (id : String) (total : Nat) (s : RunState σ τ) : RunState σ τ :=
  let s := s.onContext (·.pushLoop id total)
  s.note (.entered id s.context.loops)

/-- Makes the passes of a loop. -/
def repeatChildren (w : Walk σ τ) (go : Onward σ τ) (id : String) (output : Json)
    (s : RunState σ τ) : Except Error Unit × RunState σ τ :=
  let total := passCount output
  let step := fun index child =>
    go (.pass id index) child (passInput output index total (passItem? output index))
  let (outcome, s) := passes step (w.flowChildren id) total total (enterLoop id total s)
  (outcome, s.onContext (·.popLoop))

/-- The branch that an output selects. -/
def branchOf (output : Json) : String :=
  if ((output.get? "conditionMet").bind Json.asBool?).getD false then "true" else "false"

/-- The case that an output selects. -/
def caseOf? (output : Json) : Option String :=
  if ((output.get? "matched").bind Json.asBool?).getD false then
    (output.get? "case").bind Json.asText?
  else none

/-- The children that the output of a node selects, unless the node is a loop. -/
def selected (w : Walk σ τ) (flow : ControlFlow) (id : String) (output : Json) : List String :=
  match flow with
  | .sequential => w.flowChildren id
  | .branch => (w.select? id fun n => n.branchTag == some (branchOf output)).toList
  | .switch => ((caseOf? output).bind fun tag =>
      w.select? id fun n => n.caseTag == some tag).toList
  | .loop => []

/-- Goes on from a node that completed. -/
def dispatch (w : Walk σ τ) (go : Onward σ τ) (flow : ControlFlow) (id : String) (output : Json)
    (s : RunState σ τ) : Except Error Unit × RunState σ τ :=
  if flow = .loop then
    if w.settings.maxLoopDepth ≤ s.context.loopDepth then
      let e := Error.loopDepthExceeded id w.settings.maxLoopDepth
      w.recover go id e (s.note (.tooDeep id e))
    else w.repeatChildren go id output s
  else sweep (fun child => go (.output id) child output) (w.selected flow id output) s

/-! ### Visits -/

/-- The wording of the log entry about a node without a handler. -/
def unknownTypeText (tag : String) : String := "Unknown node type '" ++ tag ++ "'"

/-- Visits a node whose handler is known. -/
def visitWith (w : Walk σ τ) (go : Onward σ τ) (node : Workflow.Node) (h : Handler σ)
    (input : Json) (s : RunState σ τ) : Except Error Unit × RunState σ τ :=
  match w.invoke node h input s with
  | (.error e, s) => w.recover go node.id e (s.note (.failed node.id e))
  | (.ok output, s) => w.dispatch go h.controlFlow node.id output s

/-- Notes the start of a visit. -/
def enter (enclosing : List ActiveVisit) (cause : Cause) (id : String) (input : Json)
    (s : RunState σ τ) : RunState σ τ :=
  (s.note (.visited id input cause enclosing s.context.loops)).onContext (·.checkpoint id s.now)

/-- Visits a node and what follows from it. `enclosing` holds the visits under way, and `fuel`
bounds how many more may be under way at a time. -/
def visit (w : Walk σ τ) : Nat → List ActiveVisit → Onward σ τ
  | 0, _, _, id, _, s => (.ok (), s.note (.exhausted id))
  | fuel + 1, enclosing, cause, id, input, s =>
    match w.graph.node? id with
    | none => (.ok (), s)
    | some node =>
      let s := enter enclosing cause id input s
      match w.engine.registry.resolve? node.tag with
      | none =>
        (.ok (), w.log (some id) .warn (unknownTypeText node.tag) none (s.note (.skipped id)))
      | some h => w.visitWith (visit w fuel (⟨id, cause⟩ :: enclosing)) node h input s

end Walk

end FlowGraph
