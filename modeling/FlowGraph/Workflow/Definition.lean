import FlowGraph.Json.Tree

/-! # Workflow definitions

A definition has a name, initial variables, nodes and directed edges between nodes. A node has a
type tag and a configuration of any shape; a branch tag or a case tag selects it among the children
of a node that branches.

`Definition.decode` reads a definition, `Definition.toJson` writes it. A node may give its type
under `type` or `typeTag`; it is written as `type`, and tags that are not there are left out. -/

namespace FlowGraph

namespace Workflow

/-! ### Nodes -/

/-- A node of a workflow. -/
structure Node where
  id : String
  /-- What the node does. -/
  tag : String
  label : String := ""
  config : Json := .obj []
  branchTag : Option String := none
  caseTag : Option String := none

namespace Node

/-- What is known of a node while its entries are read. -/
structure Draft where
  id : Option String := none
  tag : Option String := none
  label : Option String := none
  config : Option Json := none
  branchTag : Option (Option String) := none
  caseTag : Option (Option String) := none

/-- The names of the fields in their order. -/
def fieldNames : List String := ["id", "type", "label", "config", "branchTag", "caseTag"]

/-- One entry. The type may be given under two names, but not under both. -/
def Draft.step (d : Draft) (name : String) (t : Tree) : Decoded Draft :=
  match name with
  | "id" => do
    let v ← Record.once name d.id Tree.text t
    .ok { d with id := v }
  | "type" => do
    let v ← Record.once "type" d.tag Tree.text t
    .ok { d with tag := v }
  | "typeTag" => do
    let v ← Record.once "type" d.tag Tree.text t
    .ok { d with tag := v }
  | "label" => do
    let v ← Record.once name d.label Tree.text t
    .ok { d with label := v }
  | "config" => do
    let v ← Record.once name d.config Tree.value t
    .ok { d with config := v }
  | "branchTag" => do
    let v ← Record.once name d.branchTag (Tree.optional Tree.text) t
    .ok { d with branchTag := v }
  | "caseTag" => do
    let v ← Record.once name d.caseTag (Tree.optional Tree.text) t
    .ok { d with caseTag := v }
  | _ => Record.skip d t

/-- What is read of a node. -/
def shape : Shape := .ofNames ("typeTag" :: fieldNames)

def decode (t : Tree) : Decoded Node := do
  let r ← t.record "Node" fieldNames
  let d ← r.scan Draft.step {}
  let id ← r.require "id" d.id
  let tag ← r.require "type" d.tag
  r.close {
    id, tag
    label := d.label.getD ""
    config := d.config.getD (.obj [])
    branchTag := d.branchTag.getD none
    caseTag := d.caseTag.getD none }

/-- A field for a tag that is there. -/
def tagField (name : String) : Option String → List (String × Json)
  | none => []
  | some tag => [(name, .str tag)]

def toJson (n : Node) : Json :=
  .ofFields ([("id", .str n.id), ("type", .str n.tag), ("label", .str n.label),
    ("config", n.config)] ++ tagField "branchTag" n.branchTag ++ tagField "caseTag" n.caseTag)

end Node

/-! ### Edges -/

/-- A directed edge between two nodes. -/
structure Edge where
  source : String
  target : String
deriving DecidableEq

namespace Edge

/-- What is known of an edge while its entries are read. -/
structure Draft where
  source : Option String := none
  target : Option String := none

/-- The names of the fields in their order. -/
def fieldNames : List String := ["source", "target"]

/-- What is read of an edge. -/
def shape : Shape := .ofNames fieldNames

/-- One entry. -/
def Draft.step (d : Draft) (name : String) (t : Tree) : Decoded Draft :=
  match name with
  | "source" => do
    let v ← Record.once name d.source Tree.text t
    .ok { d with source := v }
  | "target" => do
    let v ← Record.once name d.target Tree.text t
    .ok { d with target := v }
  | _ => Record.skip d t

def decode (t : Tree) : Decoded Edge := do
  let r ← t.record "Edge" fieldNames
  let d ← r.scan Draft.step {}
  let source ← r.require "source" d.source
  let target ← r.require "target" d.target
  r.close { source, target }

def toJson (e : Edge) : Json := .ofFields [("source", .str e.source), ("target", .str e.target)]

end Edge

end Workflow

/-! ### Definitions -/

/-- A workflow. -/
structure Workflow where
  name : String := ""
  description : String := ""
  /-- The variables of a run at its start. -/
  vars : Fields Json := []
  nodes : List Workflow.Node
  /-- The edges in the order of their declaration. -/
  edges : List Workflow.Edge := []

namespace Workflow

/-- What is known of a definition while its entries are read. -/
structure Draft where
  name : Option String := none
  description : Option String := none
  vars : Option (Fields Json) := none
  nodes : Option (List Node) := none
  edges : Option (List Edge) := none

/-- The names of the fields in their order. -/
def fieldNames : List String := ["name", "description", "variables", "nodes", "edges"]

/-- One entry. -/
def Draft.step (d : Draft) (name : String) (t : Tree) : Decoded Draft :=
  match name with
  | "name" => do
    let v ← Record.once name d.name Tree.text t
    .ok { d with name := v }
  | "description" => do
    let v ← Record.once name d.description Tree.text t
    .ok { d with description := v }
  | "variables" => do
    let v ← Record.once name d.vars (Tree.entriesOf Tree.value) t
    .ok { d with vars := v }
  | "nodes" => do
    let v ← Record.once name d.nodes (Tree.items Node.decode) t
    .ok { d with nodes := v }
  | "edges" => do
    let v ← Record.once name d.edges (Tree.items Edge.decode) t
    .ok { d with edges := v }
  | _ => Record.skip d t

/-- What is read of a definition. -/
def shape : Shape := .fields [
  ("name", .all), ("description", .all), ("variables", .all), ("nodes", .each Node.shape),
  ("edges", .each Edge.shape)]

def decode (t : Tree) : Decoded Workflow := do
  let r ← t.record "WorkflowDefinition" fieldNames
  let d ← r.scan Draft.step {}
  let nodes ← r.require "nodes" d.nodes
  r.close {
    name := d.name.getD ""
    description := d.description.getD ""
    vars := d.vars.getD []
    nodes
    edges := d.edges.getD [] }

def toJson (w : Workflow) : Json := .ofFields [
  ("name", .str w.name), ("description", .str w.description), ("variables", .obj w.vars),
  ("nodes", .arr (w.nodes.map Node.toJson)), ("edges", .arr (w.edges.map Edge.toJson))]

end Workflow

end FlowGraph
