import FlowGraph.Config.Settings
import FlowGraph.Error
import FlowGraph.Workflow.Definition

/-! # Graphs

A graph is built from nodes with distinct names and edges between them. `Graph.findCycle?` searches
for a directed cycle from every node in the order of declaration, along the edges in theirs;
`validate` says what keeps a graph from running and what is odd about it.

* `Graph.build` fails with the first name that repeats, else with the first end of an edge that is
  no node.
* `validate` fails in this order: build, no trigger, a cycle. -/

namespace FlowGraph

/-- The nodes in the order of their declaration, and the edges between them in theirs. -/
structure Graph where
  nodes : List Workflow.Node
  edges : List Workflow.Edge

namespace Graph

/-! ### Building -/

/-- The first name that repeats one before it. -/
def firstRepeat? (seen : List String) : List String → Option String
  | [] => none
  | id :: rest => if seen.contains id then some id else firstRepeat? (id :: seen) rest

/-- The end of an edge that is no node, the source before the target. -/
def danglingEnd? (ids : List String) (e : Workflow.Edge) : Option String :=
  if !ids.contains e.source then some e.source
  else if !ids.contains e.target then some e.target
  else none

/-- The graph of nodes and edges. -/
def build (nodes : List Workflow.Node) (edges : List Workflow.Edge) :
    Except StructuralError Graph :=
  let ids := nodes.map (·.id)
  match firstRepeat? [] ids with
  | some id => .error (.duplicateNode id)
  | none => match edges.findSome? (danglingEnd? ids) with
    | some id => .error (.unknownNode id)
    | none => .ok ⟨nodes, edges⟩

/-! ### Looking things up -/

/-- The names of the nodes in the order of their declaration. -/
def order (g : Graph) : List String := g.nodes.map (·.id)

/-- The node of a name. -/
def node? (g : Graph) (id : String) : Option Workflow.Node := g.nodes.find? fun n => n.id == id

/-- The children of a node in the order of the edges. -/
def children (g : Graph) (id : String) : List String :=
  (g.edges.filter fun e => e.source == id).map (·.target)

/-- The names of the triggers in the order of their declaration. -/
def triggers (g : Graph) (s : EngineSettings) : List String :=
  (g.nodes.filter fun n => s.isTrigger n.tag).map (·.id)

/-- Whether a name is that of an error handler. -/
def isErrorHandler (g : Graph) (s : EngineSettings) (id : String) : Bool :=
  (g.node? id).any fun n => s.isErrorHandler n.tag

/-- The children that take part in normal dispatch: nodes that are no error handlers. -/
def flowChildren (g : Graph) (s : EngineSettings) (id : String) : List String :=
  (g.children id).filter fun c => (g.node? c).any fun n => !s.isErrorHandler n.tag

/-! ### Cycles -/

/-- What a search from a node comes back with: a node on a cycle, or the nodes visited so far. -/
abbrev Search := Except String (List String)

/-- Goes through the children of a node. A child on the way from the start closes a cycle; one that
was visited before is passed over. -/
def searchChildren (go : List String → String → Search) (way visited : List String) :
    List String → Search
  | [] => .ok visited
  | c :: rest =>
    if way.contains c then .error c
    else if visited.contains c then searchChildren go way visited rest
    else match go visited c with
      | .error found => .error found
      | .ok visited' => searchChildren go way visited' rest

/-- Searches from a node. `way` leads from the start of the search to the node, and `fuel` bounds
how much longer it may get. -/
def searchFrom (g : Graph) : Nat → List String → List String → String → Search
  | 0, _, visited, _ => .ok visited
  | fuel + 1, way, visited, id =>
    searchChildren (fun v c => searchFrom g fuel (id :: way) v c) (id :: way) (id :: visited)
      (g.children id)

/-- Searches from every node that was not visited before. -/
def searchAll (g : Graph) (visited : List String) : List String → Search
  | [] => .ok visited
  | id :: rest =>
    if visited.contains id then searchAll g visited rest
    else match searchFrom g g.nodes.length [] visited id with
      | .error found => .error found
      | .ok visited' => searchAll g visited' rest

/-- A node on a directed cycle, if there is a cycle. -/
def findCycle? (g : Graph) : Option String :=
  match searchAll g [] g.order with
  | .error found => some found
  | .ok _ => none

end Graph

/-! ### Validation -/

/-- What is odd about a graph and does not keep it from running. -/
inductive Warning where
  | multipleTriggers (ids : List String)
  /-- A node that is no trigger and that no edge touches. -/
  | orphaned (id : String)
deriving DecidableEq

namespace Warning

/-- The wording of a warning. -/
def message : Warning → String
  | multipleTriggers ids => "Multiple trigger nodes found: " ++ ", ".intercalate ids
  | orphaned id => "Node '" ++ id ++ "' is not connected and will not execute"

/-- The node of a warning about an orphan. -/
def orphan? : Warning → Option String
  | orphaned id => some id
  | _ => none

end Warning

/-- The outcome of a validation. -/
structure Diagnostics where
  triggers : List String
  warnings : List Warning

namespace Diagnostics

/-- The orphaned nodes. -/
def orphans (d : Diagnostics) : List String := d.warnings.filterMap Warning.orphan?

end Diagnostics

/-- Whether an edge touches a node. -/
def touches (edges : List Workflow.Edge) (id : String) : Bool :=
  edges.any fun e => e.source == id || e.target == id

/-- What is odd about a graph with the given triggers. -/
def warningsOf (g : Graph) (s : EngineSettings) (triggers : List String) : List Warning :=
  (if triggers.length > 1 then [.multipleTriggers triggers] else []) ++
    ((g.nodes.filter fun n => !s.isTrigger n.tag && !touches g.edges n.id).map
      fun n => .orphaned n.id)

/-- Validates nodes and edges. -/
def validate (nodes : List Workflow.Node) (edges : List Workflow.Edge) (s : EngineSettings) :
    Except StructuralError Diagnostics :=
  match Graph.build nodes edges with
  | .error e => .error e
  | .ok g =>
    let triggers := g.triggers s
    if triggers.isEmpty then .error .noTrigger
    else match g.findCycle? with
      | some id => .error (.circularDependency id)
      | none => .ok ⟨triggers, warningsOf g s triggers⟩

end FlowGraph
