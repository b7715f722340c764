import FlowGraph.Condition
import FlowGraph.Node.Handler

/-! # Nodes that steer a run

Triggers hand the input of a run to the graph. A condition and a case list select one child by its
tag, a loop decides how often its children are visited, and an error handler stands in for a node
that failed. -/

namespace FlowGraph

/-! ### Triggers -/

namespace Trigger

/-- Passes the input of the run on. -/
def run (tag : String) (config : Json) (ctx : NodeContext) : NodeResult where
  data := ctx.input
  metadata := .ofFields [("trigger", .str tag), ("schedule", config.field "cron")]

/-- The handler of a trigger. -/
def handler (σ : Type) (tag description : String) : Handler σ :=
  { tag, description, behaviour := .pure (run tag) }

end Trigger

/-! ### Conditions -/

namespace IfElse

/-- Two operands and the name of an operator. -/
structure Config where
  value1 : Json
  operator : String
  value2 : Json

/-- What is known of a configuration while its entries are read. -/
structure Draft where
  value1 : Option Json := none
  operator : Option String := none
  value2 : Option Json := none

/-- One entry. -/
def Draft.step (d : Draft) (name : String) (t : Tree) : Decoded Draft :=
  match name with
  | "value1" => do
    let v ← Record.once name d.value1 Tree.value t
    .ok { d with value1 := v }
  | "operator" => do
    let v ← Record.once name d.operator Tree.text t
    .ok { d with operator := v }
  | "value2" => do
    let v ← Record.once name d.value2 Tree.value t
    .ok { d with value2 := v }
  | _ => Record.skip d t

def Config.decode (t : Tree) : Decoded Config := do
  let r ← t.record "IfElseConfig" ["value1", "operator", "value2"]
  let d ← r.scan Draft.step {}
  let operator ← r.require "operator" d.operator
  r.close ⟨d.value1.getD .null, operator, d.value2.getD .null⟩

/-- Compares the operands. -/
def holds (c : Config) (ctx : NodeContext) : Bool :=
  evaluate (ctx.resolve c.value1) c.operator (ctx.resolve c.value2)

/-- The result of a comparison. -/
def result (c : Config) (ctx : NodeContext) : NodeResult :=
  let met := holds c ctx
  { data := .ofFields [
      ("success", .bool true), ("conditionMet", .bool met),
      ("branch", .str (if met then "true" else "false")), ("data", ctx.input)]
    metadata := .ofFields [
      ("operator", .str c.operator), ("value1", ctx.resolve c.value1),
      ("value2", ctx.resolve c.value2)] }

def run (config : Json) (ctx : NodeContext) : Except Error NodeResult :=
  match Config.decode (.ofJson config) with
  | .error e => .error (.node (.invalidConfig "if_else" e))
  | .ok c => .ok (result c ctx)

def handler (σ : Type) : Handler σ :=
  { tag := "if_else"
    description := "Compare two operands and continue down the true or false branch"
    behaviour := .fallible run }

end IfElse

/-! ### Cases -/

namespace Switch

/-- A case: a value that is its own tag, or a value with a tag and an operator. -/
inductive Case where
  | tagged (value : Json) (tag operator : String)
  | bare (value : Json)

namespace Case

/-- A case with a tag, if the object gives one. -/
def tagged? (fields : Fields Json) : Option Case := do
  let value ← Fields.get? fields "value"
  let tag ← (Fields.get? fields "case").bind Json.asText?
  match Fields.get? fields "operator" with
  | none => some (.tagged value tag "equals")
  | some (.str operator) => some (.tagged value tag operator)
  | some _ => none

/-- The case a value stands for. -/
def ofJson (j : Json) : Case :=
  match j with
  | .obj fields => (tagged? fields).getD (.bare j)
  | j => .bare j

/-- The tag of the case, if it matches a value. -/
def matches? (c : Case) (value : Json) : Option String :=
  match c with
  | tagged v tag operator => if evaluate value operator v then some tag else none
  | bare v => if evaluate value "equals" v then some v.text else none

end Case

/-- A value, the cases to match it with, and the tag if none matches. -/
structure Config where
  value : Json
  cases : List Case
  defaultCase : Option String

/-- What is known of a configuration while its entries are read. -/
structure Draft where
  value : Option Json := none
  cases : Option (List Case) := none
  defaultCase : Option (Option String) := none

/-- One entry. -/
def Draft.step (d : Draft) (name : String) (t : Tree) : Decoded Draft :=
  match name with
  | "value" => do
    let v ← Record.once name d.value Tree.value t
    .ok { d with value := v }
  | "cases" => do
    let v ← Record.once name d.cases (Tree.items fun c => c.value.map Case.ofJson) t
    .ok { d with cases := v }
  | "default_case" => do
    let v ← Record.once name d.defaultCase (Tree.optional Tree.text) t
    .ok { d with defaultCase := v }
  | _ => Record.skip d t

def Config.decode (t : Tree) : Decoded Config := do
  let r ← t.record "SwitchConfig" ["value", "cases", "default_case"]
  let d ← r.scan Draft.step {}
  let value ← r.require "value" d.value
  r.close ⟨value, d.cases.getD [], d.defaultCase.getD none⟩

/-- The tag of the first case that matches. Without cases a value is its own tag, unless it is
null. -/
def matched? (cases : List Case) (value : Json) : Option String :=
  if cases.isEmpty then if value.isNull then none else some value.text
  else cases.findSome? (·.matches? value)

/-- The selected tag. -/
def selected? (c : Config) (value : Json) : Option String := (matched? c.cases value).or c.defaultCase

/-- The result of a selection. -/
def result (c : Config) (ctx : NodeContext) : NodeResult :=
  let value := ctx.resolve c.value
  let tag := selected? c value
  { data := .ofFields [
      ("success", .bool true), ("matched", .bool tag.isSome), ("case", .ofText? tag),
      ("value", value), ("data", ctx.input)]
    metadata := .ofFields [("cases_checked", .ofNat c.cases.length)] }

def run (config : Json) (ctx : NodeContext) : Except Error NodeResult :=
  match Config.decode (.ofJson config) with
  | .error e => .error (.node (.invalidConfig "switch" e))
  | .ok c => .ok (result c ctx)

def handler (σ : Type) : Handler σ :=
  { tag := "switch"
    description := "Select the child whose case tag matches the value"
    behaviour := .fallible run }

end Switch

/-! ### Loops -/

namespace Loop

/-- A count of passes or a list of items, one for each pass. -/
structure Config where
  iterations : Option Json
  items : Option Json

/-- What is known of a configuration while its entries are read. -/
structure Draft where
  iterations : Option (Option Json) := none
  items : Option (Option Json) := none

/-- One entry. -/
def Draft.step (d : Draft) (name : String) (t : Tree) : Decoded Draft :=
  match name with
  | "iterations" => do
    let v ← Record.once name d.iterations (Tree.optional Tree.value) t
    .ok { d with iterations := v }
  | "items" => do
    let v ← Record.once name d.items (Tree.optional Tree.value) t
    .ok { d with items := v }
  | _ => Record.skip d t

def Config.decode (t : Tree) : Decoded Config := do
  let r ← t.record "LoopConfig" ["iterations", "items"]
  let d ← r.scan Draft.step {}
  r.close ⟨d.iterations.getD none, d.items.getD none⟩

/-- The items of a loop over a list. -/
def items? (c : Config) (ctx : NodeContext) : Except NodeFault (Option (List Json)) :=
  match c.items with
  | none => .ok none
  | some raw => match ctx.resolve raw with
    | .arr items => .ok (some items)
    | other => .error (.itemsNotArray other)

/-- The largest count of the machine. -/
def largestCount : Nat := Nat.pow 2 64 - 1

/-- A configured count of passes. -/
def count (raw : Json) (ctx : NodeContext) : Except NodeFault Nat :=
  match (ctx.resolve raw).number? with
  | none => .error (.iterationsNotNumber raw)
  | some d =>
    if d.lt .zero then .error (.iterationsNegative d) else .ok (d.toNatWithin largestCount)

/-- The passes that are asked for: one per item, or the configured count. -/
def requested (c : Config) (items : Option (List Json)) (ctx : NodeContext) :
    Except NodeFault Nat :=
  match items with
  | some items => .ok items.length
  | none => match c.iterations with
    | some raw => count raw ctx
    | none => .error .loopWithoutCount

/-- The items field of an output. -/
def itemsField (passes : Nat) : Option (List Json) → List (String × Json)
  | none => []
  | some items => [("items", .arr (items.take passes))]

/-- The result of a loop: as many passes as are asked for, up to the limit of the engine. -/
def result (c : Config) (ctx : NodeContext) : Except NodeFault NodeResult := do
  let items ← items? c ctx
  let asked ← requested c items ctx
  let passes := min asked ctx.settings.maxLoopIterations
  .ok {
    data := .ofFields ([("success", .bool true), ("iterations", .ofNat passes),
      ("data", ctx.input)] ++ itemsField passes items)
    metadata := .ofFields [
      ("requested", .ofNat asked), ("capped", .bool (passes < asked))] }

def run (config : Json) (ctx : NodeContext) : Except Error NodeResult :=
  match Config.decode (.ofJson config) with
  | .error e => .error (.node (.invalidConfig "loop" e))
  | .ok c => match result c ctx with
    | .error fault => .error (.node fault)
    | .ok r => .ok r

def handler (σ : Type) : Handler σ :=
  { tag := "loop"
    description := "Re-run child nodes a fixed number of times or once per item"
    behaviour := .fallible run }

end Loop

/-! ### Error handlers -/

namespace ErrorHandler

/-- Takes over for the node that failed. -/
def run (config : Json) (ctx : NodeContext) : NodeResult where
  data := .ofFields [
    ("success", .bool true), ("handled", .bool true), ("error", ctx.input.field "error"),
    ("failedNode", ctx.input.field "failedNode"), ("fallback", config.field "fallback")]

def handler (σ : Type) : Handler σ :=
  { tag := "error_handler"
    description := "Recover from a failure of the parent node"
    behaviour := .pure run }

end ErrorHandler

end FlowGraph
