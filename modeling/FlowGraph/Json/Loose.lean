import FlowGraph.Json.Printer
import FlowGraph.Number.Decimal
import FlowGraph.Text.Blank

/-! # Loose views of JSON values

A workflow author mixes numbers, numeric texts and booleans freely, so operands are looked at
loosely.

* `Json.text` is what a value shows as inside a text: strings as they are, null as nothing, all
  else as JSON.
* `Json.number?` takes numbers, numeric texts and booleans as numbers.
* `Json.isTruthy` is false for null, false, zero and everything empty. -/

namespace FlowGraph

namespace Json

/-- The text of a value. -/
def text : Json → String
  | .str s => s
  | .null => ""
  | j => j.compact

/-- The number of a value, numeric texts and booleans included. -/
def number? : Json → Option Double
  | .str s => Decimal.parseDouble? (Text.trim s)
  | .bool b => some (if b then .one else .zero)
  | j => j.asDouble?

/-- Whether a value counts as true. -/
def isTruthy : Json → Bool
  | .null => false
  | .bool b => b
  | .int n => n != 0
  | .float d => !d.isZero
  | .str s => !s.isEmpty
  | .arr items => !items.isEmpty
  | .obj fields => !fields.isEmpty

end Json

end FlowGraph
