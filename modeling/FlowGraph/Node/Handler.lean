import FlowGraph.Config.Settings
import FlowGraph.Credentials
import FlowGraph.Node.Kind
import FlowGraph.Template
import FlowGraph.World

/-! # Handlers

A handler does the work of the nodes of one kind. It sees the configuration of the node and a
snapshot of the run (`NodeContext`), and gives a result or an error; what it wants to publish goes
into the result. A handler may name an external resource, which the engine then guards by a
breaker.

A `Registry` finds the handler of a type tag. -/

namespace FlowGraph

/-- The snapshot of a run that a handler sees. -/
structure NodeContext extends Scope where
  nodeId : String
  executionId : String
  workflowName : String
  /-- On whose behalf credentials are looked up. -/
  userId : Option String := none
  /-- How many runs enclose this one. -/
  depth : Nat := 0
  settings : EngineSettings := {}
  credentials : Option Credentials := none

/-- The result of a handler. -/
structure NodeResult where
  /-- The output of the node, passed on to its children. -/
  data : Json
  /-- Facts about the call that are not passed on. -/
  metadata : Json := .obj []

/-- A call of a handler. -/
abbrev Call (σ : Type) := Json → NodeContext → World σ → Except Error NodeResult × World σ

/-- What a handler does. -/
inductive Behaviour (σ : Type) where
  /-- It works by itself. -/
  | call (run : Call σ)
  /-- It runs the workflow in its configuration, which is up to the engine. -/
  | subWorkflow

/-- A handler. -/
structure Handler (σ : Type) where
  /-- The tag of the handler itself. -/
  tag : String
  behaviour : Behaviour σ
  controlFlow : ControlFlow := (NodeKind.ofTag tag).controlFlow
  /-- The fields a configuration must have before the handler is called. -/
  requiredFields : List String := (NodeKind.ofTag tag).requiredFields
  /-- The external resource a call addresses. -/
  resource? : Json → NodeContext → Option String := fun _ _ => none
  description : String := "A workflow node"

/-- A handler that neither fails nor touches the world around it. -/
def Behaviour.pure {σ : Type} (f : Json → NodeContext → NodeResult) : Behaviour σ :=
  .call fun config ctx w => (.ok (f config ctx), w)

/-- A handler that does not touch the world around it. -/
def Behaviour.fallible {σ : Type} (f : Json → NodeContext → Except Error NodeResult) :
    Behaviour σ :=
  .call fun config ctx w => (f config ctx, w)

/-- The handlers by type tag. -/
structure Registry (σ : Type) where
  handlers : Fields (Handler σ) := []

namespace Registry

variable {σ : Type}

/-- Puts a handler under a tag, in place of any before it. -/
def registerAs (r : Registry σ) (tag : String) (h : Handler σ) : Registry σ :=
  ⟨Fields.insert tag h r.handlers⟩

/-- Puts a handler under its own tag. -/
def register (r : Registry σ) (h : Handler σ) : Registry σ := r.registerAs h.tag h

/-- The registry of the given handlers. -/
def ofHandlers (handlers : List (Handler σ)) : Registry σ := handlers.foldl register {}

/-- The handler of a tag. -/
def resolve? (r : Registry σ) (tag : String) : Option (Handler σ) := Fields.get? r.handlers tag

/-- The tags in order. -/
def tags (r : Registry σ) : List String := Fields.names r.handlers

/-- The tags in order with the descriptions of their handlers. -/
def descriptions (r : Registry σ) : List (String × String) :=
  r.handlers.map fun p => (p.1, p.2.description)

end Registry

end FlowGraph
