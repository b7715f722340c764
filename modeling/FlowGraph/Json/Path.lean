import FlowGraph.Json.Basic
import FlowGraph.Number.Decimal
import FlowGraph.Text.Blank

/-! # Paths into JSON values

A dotted path is a list of segments, the empty ones left out. A segment names a field of an object
or gives the position of an item of an array.

* `Json.at?` follows the segments; it gives nothing where one of them leads nowhere.
* `Fields.write` puts a value at the end of a path through objects. Objects that are missing on the
  way are made, and anything else on the way gives place to an object. -/

namespace FlowGraph

namespace Path

/-- The segments of a dotted path. -/
def segments (path : String) : List String :=
  ((Text.splitAll '.' path.toList).filter fun s => !s.isEmpty).map String.ofList

/-- The position a segment gives. -/
def position? (segment : String) : Option Nat := parseUnsigned? (Nat.pow 2 64) segment

end Path

namespace Json

/-- The value one segment further. -/
def step? (j : Json) (segment : String) : Option Json :=
  match j with
  | .obj fields => Fields.get? fields segment
  | .arr items => (Path.position? segment).bind fun i => items[i]?
  | _ => none

/-- The value at the end of the segments. -/
def at? (j : Json) : List String → Option Json
  | [] => some j
  | segment :: rest => (j.step? segment).bind fun child => child.at? rest

/-- The value at the end of a dotted path. -/
def atPath? (j : Json) (path : String) : Option Json := j.at? (Path.segments path)

/-- The fields of an object, none for any other value. -/
def fieldsOrNone : Json → Fields Json
  | .obj fields => fields
  | _ => []

end Json

namespace Fields

/-- Puts a value at the end of the segments. -/
def write (fields : Fields Json) : List String → Json → Fields Json
  | [], _ => fields
  | [last], value => Fields.insert last value fields
  | segment :: next :: rest, value =>
    let inner := ((Fields.get? fields segment).map Json.fieldsOrNone).getD []
    Fields.insert segment (.obj (write inner (next :: rest) value)) fields

/-- Puts a value at the end of a dotted path. -/
def writePath (fields : Fields Json) (path : String) (value : Json) : Fields Json :=
  fields.write (Path.segments path) value

end Fields

end FlowGraph
