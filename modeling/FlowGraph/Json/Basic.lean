import FlowGraph.Number.Double

/-! # JSON values

Numbers are integers (`Json.int`, from `-2 ^ 63` to `2 ^ 64 - 1`) or doubles (`Json.float`). The
fields of an object are a list of pairs in increasing order of their names (`Fields.insert` keeps
it so), hence two objects with the same fields are the same value.

* `Fields.get?` looks a field up, `Fields.insert` adds or replaces one.
* `Json.ofFields` builds an object from pairs in any order; of pairs with one name the last stays. -/

namespace FlowGraph

/-- A JSON value. -/
inductive Json where
  | null
  | bool (b : Bool)
  | int (n : Int)
  | float (d : Double)
  | str (s : String)
  | arr (items : List Json)
  | obj (fields : List (String × Json))

instance : Inhabited Json := ⟨.null⟩

/-- Fields in increasing order of their names. -/
abbrev Fields (α : Type) := List (String × α)

namespace Fields

variable {α β : Type}

/-- The value under a name. -/
def get? (fields : Fields α) (name : String) : Option α :=
  (fields.find? fun p => p.1 == name).map (·.2)

/-- Whether a name is present. -/
def contains (fields : Fields α) (name : String) : Bool := fields.any fun p => p.1 == name

/-- Puts a value under a name, in its place by the order of names. -/
def insert (name : String) (value : α) : Fields α → Fields α
  | [] => [(name, value)]
  | (n, v) :: rest =>
    if name = n then (name, value) :: rest
    else if name < n then (name, value) :: (n, v) :: rest
    else (n, v) :: insert name value rest

/-- Takes a name out. -/
def erase (fields : Fields α) (name : String) : Fields α := fields.filter fun p => p.1 != name

/-- The pairs in order of their names; of pairs with one name the last stays. -/
def ofPairs (pairs : List (String × α)) : Fields α :=
  pairs.foldl (fun fields p => insert p.1 p.2 fields) []

/-- The names in order. -/
def names (fields : Fields α) : List String := fields.map (·.1)

/-- The fields with every value mapped. -/
def mapValues (f : α → β) (fields : Fields α) : Fields β := fields.map fun p => (p.1, f p.2)

end Fields

namespace Json

/-- The integers a JSON number holds exactly. -/
def isExact (n : Int) : Bool := -(Nat.pow 2 63) ≤ n && n < Nat.pow 2 64

/-- An object from pairs in any order. -/
def ofFields (pairs : List (String × Json)) : Json := .obj (Fields.ofPairs pairs)

/-- A count. -/
def ofNat (n : Nat) : Json := .int n

/-- A text, or null. -/
def ofText? : Option String → Json
  | none => .null
  | some s => .str s

/-- A value, or null. -/
def ofOption (o : Option Json) : Json := o.getD .null

/-- A double; one that is not finite has no JSON number and becomes null. -/
def ofDouble (d : Double) : Json := if d.isFinite then .float d else .null

/-- The field of an object. -/
def get? (j : Json) (name : String) : Option Json :=
  match j with
  | .obj fields => Fields.get? fields name
  | _ => none

/-- The field of an object, or null. -/
def field (j : Json) (name : String) : Json := (j.get? name).getD .null

/-- The text of a string value. -/
def asText? : Json → Option String
  | .str s => some s
  | _ => none

/-- The value of a boolean. -/
def asBool? : Json → Option Bool
  | .bool b => some b
  | _ => none

/-- An integer that is not negative. -/
def asNat? : Json → Option Nat
  | .int n => if 0 ≤ n then some n.toNat else none
  | _ => none

/-- The items of an array. -/
def asItems? : Json → Option (List Json)
  | .arr items => some items
  | _ => none

/-- The number of a numeric value. -/
def asDouble? : Json → Option Double
  | .int n => some (Double.ofInt n)
  | .float d => some d
  | _ => none

/-- Whether the value is null. -/
def isNull : Json → Bool
  | .null => true
  | _ => false

end Json

end FlowGraph
