import FlowGraph.Node.Handler

/-! # Nodes that change or hold data

A set node writes values into the object it receives, at the ends of dotted paths; all values are
resolved against what the node received. A delay node waits and passes its input on. -/

namespace FlowGraph

/-! ### Set -/

namespace SetFields

/-- Values by path, and a list of further assignments made after them. -/
structure Config where
  values : Fields Json
  fields : List (String × Json)

/-- What is known of an assignment while its entries are read. -/
structure AssignmentDraft where
  name : Option String := none
  value : Option Json := none

/-- One entry of an assignment. -/
def AssignmentDraft.step (d : AssignmentDraft) (name : String) (t : Tree) :
    Decoded AssignmentDraft :=
  match name with
  | "name" => do
    let v ← Record.once name d.name Tree.text t
    .ok { d with name := v }
  | "value" => do
    let v ← Record.once name d.value Tree.value t
    .ok { d with value := v }
  | _ => Record.skip d t

/-- An assignment. -/
def decodeAssignment (t : Tree) : Decoded (String × Json) := do
  let r ← t.record "SetField" ["name", "value"]
  let d ← r.scan AssignmentDraft.step {}
  let name ← r.require "name" d.name
  let value ← r.require "value" d.value
  r.close (name, value)

/-- What is known of a configuration while its entries are read. -/
structure Draft where
  values : Option (Fields Json) := none
  fields : Option (List (String × Json)) := none

/-- One entry. -/
def Draft.step (d : Draft) (name : String) (t : Tree) : Decoded Draft :=
  match name with
  | "values" => do
    let v ← Record.once name d.values (Tree.entriesOf Tree.value) t
    .ok { d with values := v }
  | "fields" => do
    let v ← Record.once name d.fields (Tree.items decodeAssignment) t
    .ok { d with fields := v }
  | _ => Record.skip d t

def Config.decode (t : Tree) : Decoded Config := do
  let r ← t.record "SetConfig" ["values", "fields"]
  let d ← r.scan Draft.step {}
  r.close ⟨d.values.getD [], d.fields.getD []⟩

/-- All assignments in the order in which they are made. -/
def Config.assignments (c : Config) : List (String × Json) := c.values ++ c.fields

/-- The object that the assignments start from. -/
def start (input : Json) : Fields Json :=
  match input with
  | .obj fields => fields
  | .null => []
  | other => [("data", other)]

/-- Makes the assignments one after another. -/
def assign (ctx : NodeContext) (fields : Fields Json) : List (String × Json) →
    Except NodeFault (Fields Json)
  | [] => .ok fields
  | (path, value) :: rest =>
    if Text.isBlankText path then .error .emptyFieldName
    else assign ctx (fields.writePath path (ctx.resolveDeep value)) rest

/-- The result of the assignments. -/
def result (c : Config) (ctx : NodeContext) : Except NodeFault NodeResult :=
  if c.assignments.isEmpty then .error .noAssignment
  else match assign ctx (start ctx.input) c.assignments with
    | .error fault => .error fault
    | .ok fields => .ok {
        data := .obj fields
        metadata := .ofFields [("fields_set", .ofNat c.assignments.length)] }

def run (config : Json) (ctx : NodeContext) : Except Error NodeResult :=
  match Config.decode (.ofJson config) with
  | .error e => .error (.node (.invalidConfig "set" e))
  | .ok c => match result c ctx with
    | .error fault => .error (.node fault)
    | .ok r => .ok r

def handler (σ : Type) : Handler σ :=
  { tag := "set"
    description := "Set or update fields in object data"
    behaviour := .fallible run }

end SetFields

/-! ### Delay -/

namespace Delay

/-- The longest delay, one hour. -/
def longest : Nat := 3600000

/-- What is known of a configuration while its entries are read. -/
structure Draft where
  duration : Option Json := none

/-- One entry. -/
def Draft.step (d : Draft) (name : String) (t : Tree) : Decoded Draft :=
  match name with
  | "duration_ms" => do
    let v ← Record.once name d.duration Tree.value t
    .ok { d with duration := v }
  | _ => Record.skip d t

/-- The configured duration. -/
def decode (t : Tree) : Decoded Json := do
  let r ← t.record "DelayConfig" ["duration_ms"]
  let d ← r.scan Draft.step {}
  let duration ← r.require "duration_ms" d.duration
  r.close duration

/-- The milliseconds of a duration. -/
def millis (duration : Json) : Except NodeFault Nat :=
  match duration.number? with
  | none => .error (.durationNotNumber duration)
  | some d =>
    if d.lt .zero then .error .durationNegative
    else
      let ms := d.toNatWithin (Nat.pow 2 64 - 1)
      if ms > longest then .error (.durationTooLong ms longest) else .ok ms

/-- The milliseconds that a node waits. -/
def duration (config : Json) (ctx : NodeContext) : Except Error Nat :=
  match decode (.ofJson config) with
  | .error e => .error (.node (.invalidConfig "delay" e))
  | .ok duration => match millis (ctx.resolve duration) with
    | .error fault => .error (.node fault)
    | .ok ms => .ok ms

def run {σ : Type} (pause : Pause) : Call σ := fun config ctx w =>
  match duration config ctx with
  | .error e => (.error e, w)
  | .ok ms => (.ok { data := ctx.input, metadata := .ofFields [("waited_ms", .ofNat ms)] },
      if 0 < ms then w.wait pause ms else w)

def handler (σ : Type) (pause : Pause) : Handler σ :=
  { tag := "delay"
    description := "Pause execution for a number of milliseconds"
    behaviour := .call (run pause) }

end Delay

end FlowGraph
