import FlowGraph.Json.Basic
import FlowGraph.Timestamp

/-! # The context of a run

What a run knows of itself: its variables, the last output of every node, when every node last
started, the failures of nodes in their order, and the loops around the current visit.

* `RunContext.complete` is the only step that counts a node as executed.
* The innermost loop is the head of `RunContext.loops`; written out, the outermost comes first. -/

namespace FlowGraph

/-- A loop around the current visit. -/
structure LoopFrame where
  nodeId : String
  /-- The pass that is under way, counted from one. -/
  iteration : Nat
  maxIterations : Nat
deriving DecidableEq

/-- The loop as an object. -/
def LoopFrame.toJson (f : LoopFrame) : Json := .ofFields [
  ("nodeId", .str f.nodeId), ("iteration", .ofNat f.iteration),
  ("maxIterations", .ofNat f.maxIterations)]

/-- A failure of a node, recovered or not. -/
structure NodeError where
  nodeId : String
  message : String
  timestamp : Timestamp
deriving DecidableEq

/-- The failure as an object. -/
def NodeError.toJson (e : NodeError) : Json := .ofFields [
  ("nodeId", .str e.nodeId), ("message", .str e.message), ("timestamp", .str e.timestamp.text)]

/-- What a run knows of itself. -/
structure RunContext where
  executionId : String := ""
  vars : Fields Json := []
  /-- The last output of every node. -/
  outputs : Fields Json := []
  /-- When every node last started. -/
  checkpoints : Fields Timestamp := []
  /-- The failures of nodes in their order. -/
  errors : List NodeError := []
  /-- The loops around the current visit, the innermost first. -/
  loops : List LoopFrame := []
  /-- The last node whose handler completed. -/
  lastCompleted : Option String := none
  nodesExecuted : Nat := 0

namespace RunContext

/-- Notes that a node starts. -/
def checkpoint (c : RunContext) (id : String) (now : Timestamp) : RunContext :=
  { c with checkpoints := Fields.insert id now c.checkpoints }

/-- Keeps the output of a node and counts the node as executed. -/
def complete (c : RunContext) (id : String) (output : Json) : RunContext :=
  { c with
    outputs := Fields.insert id output c.outputs
    lastCompleted := some id
    nodesExecuted := c.nodesExecuted + 1 }

/-- Adds a failure of a node. -/
def recordError (c : RunContext) (id message : String) (now : Timestamp) : RunContext :=
  { c with errors := c.errors ++ [⟨id, message, now⟩] }

/-- The last output of a node. -/
def output? (c : RunContext) (id : String) : Option Json := Fields.get? c.outputs id

/-- How many loops are around the current visit. -/
def loopDepth (c : RunContext) : Nat := c.loops.length

/-- Enters a loop, before its first pass. -/
def pushLoop (c : RunContext) (id : String) (maxIterations : Nat) : RunContext :=
  { c with loops := ⟨id, 0, maxIterations⟩ :: c.loops }

/-- Goes to a pass of the innermost loop. -/
def setIteration (c : RunContext) (iteration : Nat) : RunContext :=
  match c.loops with
  | [] => c
  | frame :: outer => { c with loops := { frame with iteration } :: outer }

/-- Leaves the innermost loop. -/
def popLoop (c : RunContext) : RunContext := { c with loops := c.loops.tail }

/-- The innermost loop. -/
def innermost? (c : RunContext) : Option LoopFrame := c.loops.head?

/-- The context as an object. -/
def toJson (c : RunContext) : Json := .ofFields [
  ("executionId", .str c.executionId), ("variables", .obj c.vars),
  ("outputs", .obj c.outputs),
  ("checkpoints", .obj (Fields.mapValues (fun t => .str t.text) c.checkpoints)),
  ("errors", .arr (c.errors.map NodeError.toJson)),
  ("loopStack", .arr (c.loops.reverse.map LoopFrame.toJson)),
  ("lastCompleted", .ofText? c.lastCompleted), ("nodesExecuted", .ofNat c.nodesExecuted)]

end RunContext

end FlowGraph
