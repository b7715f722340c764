import FlowGraph.Node.Handler
import FlowGraph.Run.Context
import FlowGraph.Store.Sink

/-! # The journal of a run

A run writes down what it does: every visit with its cause and the visits that enclose it, every
call of a handler with the snapshot the handler sees, every output and failure, every loop entered,
and every report to the sink. -/

namespace FlowGraph

/-- Why a node is visited. -/
inductive Cause where
  /-- The run starts with it. -/
  | start
  /-- Its parent completed and selects it. -/
  | output (parent : String)
  /-- Its parent is a loop in a pass, counted from zero. -/
  | pass (parent : String) (index : Nat)
  /-- Its parent failed. -/
  | failure (parent : String)
deriving DecidableEq

/-- The parent of a visit. -/
def Cause.parent? : Cause → Option String
  | start => none
  | output parent => some parent
  | pass parent _ => some parent
  | failure parent => some parent

/-- A visit under way. -/
structure ActiveVisit where
  id : String
  cause : Cause
deriving DecidableEq

/-- What a run does. -/
inductive Event where
  /-- A node is visited. The visits under way around it come innermost first, the loops too. -/
  | visited (id : String) (input : Json) (cause : Cause) (enclosing : List ActiveVisit)
    (loops : List LoopFrame)
  /-- A node has no handler. -/
  | skipped (id : String)
  /-- A handler is called. -/
  | invoked (ctx : NodeContext)
  /-- A handler has given an output. -/
  | completed (id : String) (output : Json)
  /-- A node has failed. -/
  | failed (id : String) (error : Error)
  /-- A loop is entered, before its first pass. The loops around its body come innermost first. -/
  | entered (id : String) (loops : List LoopFrame)
  /-- A loop was not entered, because there are too many around it. -/
  | tooDeep (id : String) (error : Error)
  /-- The sink was told something. -/
  | reported (report : Report)
  /-- A visit was cut off. No graph without cycles lets this happen. -/
  | exhausted (id : String)

end FlowGraph
