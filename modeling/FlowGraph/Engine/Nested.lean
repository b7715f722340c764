import FlowGraph.Engine.Run

/-! # Nested workflows

A node may hold a whole workflow. It is run by an engine of its own, with new breakers and without
a sink, one level deeper than the engine around it; only its input, its settings, its handlers and
its credentials come from there. The levels are limited, so runs end.

* `nestedRun` runs the workflow of a configuration.
* `Engine.run` runs a workflow with everything inside it.
* `Registry.execute` calls a single handler outside of any run. -/

namespace FlowGraph

namespace SubWorkflow

/-- A workflow in the configuration of a node. -/
structure Config where
  name : Option String
  nodes : List Workflow.Node
  edges : List Workflow.Edge
  vars : Fields Json
  /-- What the workflow receives, if it is not the input of the node. -/
  input : Option Json

/-- What is known of a configuration while its entries are read. -/
structure Draft where
  name : Option (Option String) := none
  nodes : Option (List Workflow.Node) := none
  edges : Option (List Workflow.Edge) := none
  vars : Option (Fields Json) := none
  input : Option (Option Json) := none

/-- One entry. -/
def Draft.step (d : Draft) (name : String) (t : Tree) : Decoded Draft :=
  match name with
  | "name" => do
    let v ← Record.once name d.name (Tree.optional Tree.text) t
    .ok { d with name := v }
  | "nodes" => do
    let v ← Record.once name d.nodes (Tree.items Workflow.Node.decode) t
    .ok { d with nodes := v }
  | "edges" => do
    let v ← Record.once name d.edges (Tree.items Workflow.Edge.decode) t
    .ok { d with edges := v }
  | "variables" => do
    let v ← Record.once name d.vars (Tree.entriesOf Tree.value) t
    .ok { d with vars := v }
  | "input" => do
    let v ← Record.once name d.input (Tree.optional Tree.value) t
    .ok { d with input := v }
  | _ => Record.skip d t

def Config.decode (t : Tree) : Decoded Config := do
  let r ← t.record "SubWorkflowConfig" ["name", "nodes", "edges", "variables", "input"]
  let d ← r.scan Draft.step {}
  let nodes ← r.require "nodes" d.nodes
  r.close {
    nodes
    name := d.name.getD none
    edges := d.edges.getD []
    vars := d.vars.getD []
    input := d.input.getD none }

/-- The workflow; without a name of its own it is named after the node that holds it. -/
def Config.workflow (c : Config) (ctx : NodeContext) : Workflow where
  name := c.name.getD (ctx.workflowName ++ "/" ++ ctx.nodeId)
  vars := c.vars
  nodes := c.nodes
  edges := c.edges

/-- What the workflow receives. -/
def Config.inputFor (c : Config) (ctx : NodeContext) : Json :=
  match c.input with
  | none => ctx.input
  | some j => ctx.resolve j

/-- The engine for the workflow of a node. -/
def engine {σ : Type} (registry : Registry σ) (ctx : NodeContext) : Engine σ Unit :=
  { registry
    settings := ctx.settings
    credentials := ctx.credentials
    userId := ctx.userId
    depth := ctx.depth + 1 }

/-- What a workflow gives: the output of the node that completed last. -/
def output (c : RunContext) : Json := ((c.lastCompleted).bind c.output?).getD .null

/-- The result of a node whose workflow completed. -/
def result (r : RunSuccess) (c : RunContext) (depth : Nat) : NodeResult where
  data := .ofFields [
    ("success", .bool true), ("executionId", .str r.executionId),
    ("nodesExecuted", .ofNat r.nodesExecuted), ("output", output c)]
  metadata := .ofFields [("duration_ms", .ofNat r.durationMs), ("depth", .ofNat depth)]

/-- Runs the workflow of a configuration, with a given way to run the workflows inside it. -/
def runWith {σ : Type} (registry : Option (Registry σ)) (inner : NestedRun σ) : NestedRun σ :=
  fun config ctx session =>
    match Config.decode (.ofJson config) with
    | .error e => (.error (.node (.invalidConfig "sub_workflow" e)), session)
    | .ok c =>
      if ctx.settings.maxSubworkflowDepth ≤ ctx.depth then
        (.error (.node (.nestedTooDeep ctx.settings.maxSubworkflowDepth)), session)
      else match registry with
        | none => (.error (.node .noRegistry), session)
        | some registry =>
          let workflow := c.workflow ctx
          let r := (engine registry ctx).runWith inner workflow (c.inputFor ctx) session ()
          match r.outcome with
          | .error f => (.error (.subWorkflow workflow.name f.error), r.session)
          | .ok success => (.ok (result success r.engine.context (ctx.depth + 1)), r.session)

end SubWorkflow

/-- Runs the workflow of a configuration when that many more levels may be below it. -/
def nestedRun {σ : Type} (registry : Option (Registry σ)) :
    Nat → Json → NodeContext → Session σ → Except Error NodeResult × Session σ
  | 0, config, ctx, s => SubWorkflow.runWith registry
      (fun _ ctx s => (.error (.node (.nestedTooDeep ctx.settings.maxSubworkflowDepth)), s))
      config ctx s
  | levels + 1, config, ctx, s =>
    SubWorkflow.runWith registry (nestedRun registry levels) config ctx s

/-- Runs a workflow. -/
def Engine.run {σ τ : Type} (e : Engine σ τ) (workflow : Workflow) (input : Json)
    (session : Session σ) (store : τ) : RunReport σ τ :=
  e.runWith (nestedRun (some e.registry) (e.settings.maxSubworkflowDepth - e.depth)) workflow input
    session store

/-- Calls the handler of a type tag. `inside` has the handlers for a workflow in the
configuration. -/
def Registry.execute {σ : Type} (r : Registry σ) (inside : Option (Registry σ)) (tag : String)
    (config : Json) (ctx : NodeContext) (session : Session σ) :
    Except Error NodeResult × Session σ :=
  match r.resolve? tag with
  | none => (.error (.node (.unknownType tag)), session)
  | some h =>
    h.invoke (nestedRun inside (ctx.settings.maxSubworkflowDepth - ctx.depth)) config ctx session

end FlowGraph
