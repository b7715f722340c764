import FlowGraph.Json.Basic
import FlowGraph.Text.Blank

/-! # Node kinds

A type tag names a kind of node. The built-in kinds fix which children are visited after a node
(`ControlFlow`) and which fields its configuration must have; every other tag is a kind of its own
that visits all children and requires nothing. -/

namespace FlowGraph

/-- Which children are visited after a node. -/
inductive ControlFlow where
  /-- All children, in the order of the edges. -/
  | sequential
  /-- The child with the branch tag that a condition selects. -/
  | branch
  /-- The child with the case tag that was matched. -/
  | switch
  /-- All children, once per pass. -/
  | loop
deriving DecidableEq

/-- The kinds of nodes. -/
inductive NodeKind where
  | manualTrigger | webhookTrigger | scheduleTrigger
  | ifElse | switch | loop | errorHandler | set | delay | httpRequest | webhook | subWorkflow
  | custom (tag : String)
deriving DecidableEq

namespace NodeKind

/-- The built-in kinds and their tags. -/
def builtIn : List (String × NodeKind) := [
  ("manual_trigger", manualTrigger), ("webhook_trigger", webhookTrigger),
  ("schedule_trigger", scheduleTrigger), ("if_else", ifElse), ("switch", switch), ("loop", loop),
  ("error_handler", errorHandler), ("set", set), ("delay", delay), ("http_request", httpRequest),
  ("webhook", webhook), ("sub_workflow", subWorkflow)]

/-- The kind of a tag. -/
def ofTag (tag : String) : NodeKind := (builtIn.lookup tag).getD (custom tag)

/-- The tag of a kind. -/
def tag : NodeKind → String
  | manualTrigger => "manual_trigger"
  | webhookTrigger => "webhook_trigger"
  | scheduleTrigger => "schedule_trigger"
  | ifElse => "if_else"
  | switch => "switch"
  | loop => "loop"
  | errorHandler => "error_handler"
  | set => "set"
  | delay => "delay"
  | httpRequest => "http_request"
  | webhook => "webhook"
  | subWorkflow => "sub_workflow"
  | custom tag => tag

/-- Whether the kind is not built in. -/
def isCustom : NodeKind → Bool
  | custom _ => true
  | _ => false

/-- Which children a node of the kind has visited. -/
def controlFlow : NodeKind → ControlFlow
  | ifElse => .branch
  | switch => .switch
  | loop => .loop
  | _ => .sequential

/-- The fields a configuration must have. -/
def requiredFields : NodeKind → List String
  | ifElse => ["operator"]
  | switch => ["value"]
  | delay => ["duration_ms"]
  | httpRequest => ["url"]
  | webhook => ["url"]
  | subWorkflow => ["nodes"]
  | _ => []

end NodeKind

/-- Whether a configuration lacks a field: it is not there, null, or a text of blanks. -/
def lacksField (config : Json) (field : String) : Bool :=
  match config.get? field with
  | none => true
  | some .null => true
  | some (.str s) => Text.isBlankText s
  | some _ => false

/-- The first of the fields that a configuration lacks. -/
def missingField? (config : Json) (fields : List String) : Option String :=
  fields.find? (lacksField config)

end FlowGraph
