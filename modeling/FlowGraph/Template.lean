import FlowGraph.Json.Loose
import FlowGraph.Json.Path

/-! # Templates

A reference is a text between double braces: `input`, `input.<path>`, `variables.<path>` or
`nodes.<id>.<path>`, the word `output` in front of the last path being optional. What it refers to
is looked up in a `Scope`.

* `Template.render` replaces every reference in a text by the text of its value, in one pass: what
  is put in is not looked at again. A reference to nothing gives an empty text.
* `Scope.resolve` keeps the type of the value if the whole operand is one reference; a reference to
  nothing gives null. -/

namespace FlowGraph

/-- What references may refer to. -/
structure Scope where
  input : Json
  vars : Json
  /-- The latest result of each node. -/
  outputs : Fields Json

namespace Scope

/-- The path below the result of a node. -/
def outputPath (path : String) : String :=
  if path = "output" then ""
  else match Text.dropStart? path.toList "output.".toList with
    | some rest => String.ofList rest
    | none => path

/-- The value a reference to a node's result stands for, given what follows `nodes.`. -/
def lookupNode (scope : Scope) (rest : List Char) : Option Json :=
  let (id, path) := Text.splitFirst '.' rest
  (Fields.get? scope.outputs (String.ofList id)).bind fun result =>
    result.atPath? (outputPath (String.ofList (path.getD [])))

/-- The value a reference stands for. -/
def lookup (scope : Scope) (reference : List Char) : Option Json :=
  let cs := Text.trimChars reference
  if cs = "input".toList then some scope.input
  else match Text.dropStart? cs "input.".toList with
    | some path => scope.input.atPath? (String.ofList path)
    | none => match Text.dropStart? cs "variables.".toList with
      | some path => scope.vars.atPath? (String.ofList path)
      | none => match Text.dropStart? cs "nodes.".toList with
        | some rest => scope.lookupNode rest
        | none => none

end Scope

namespace Template

/-- A part of a template. -/
inductive Piece where
  | literal (c : Char)
  | reference (inner : List Char)
deriving DecidableEq

/-- The opening mark of a reference. -/
def opening : List Char := ['{', '{']

/-- The closing mark of a reference. -/
def closing : List Char := ['}', '}']

/-- What stands at the front of a text. -/
inductive Front where
  | reference (inner : List Char)
  /-- So many characters, none of which begins a reference. -/
  | literals (count : Nat)

/-- What stands at the front of a text. A reference has at least one character and no closing brace
before its closing mark; where that mark is missing, no reference begins before the next brace. -/
def front (cs : List Char) : Front :=
  match Text.dropStart? cs opening with
  | none => .literals 1
  | some rest =>
    let inner := rest.takeWhile (· != '}')
    if inner.isEmpty then .literals 1
    else match Text.dropStart? (rest.dropWhile (· != '}')) closing with
      | none => .literals (inner.length + 2)
      | some _ => .reference inner

/-- The pieces of a text after its first `skip` characters, the next `count` of which are
literals. -/
def pieces : Nat → Nat → List Char → List Piece
  | _, _, [] => []
  | skip + 1, count, _ :: cs => pieces skip count cs
  | 0, count + 1, c :: cs => .literal c :: pieces 0 count cs
  | 0, 0, c :: cs =>
    match front (c :: cs) with
    | .reference inner => .reference inner :: pieces (inner.length + 3) 0 cs
    | .literals count => .literal c :: pieces 0 (count - 1) cs

/-- What a reference shows as. -/
def referenceText (scope : Scope) (inner : List Char) : List Char :=
  match scope.lookup inner with
  | some j => j.text.toList
  | none => []

/-- What a piece shows as. -/
def pieceText (scope : Scope) : Piece → List Char
  | .literal c => [c]
  | .reference inner => referenceText scope inner

/-- A text with its references replaced. -/
def render (scope : Scope) (template : String) : String :=
  String.ofList ((pieces 0 0 template.toList).flatMap (pieceText scope))

/-- The inside of a text that is one reference and blanks around it. -/
def single? (cs : List Char) : Option (List Char) :=
  match Text.dropStart? (Text.trimChars cs) opening with
  | none => none
  | some rest => match Text.dropStart? rest.reverse closing with
    | none => none
    | some reversed =>
      let inner := reversed.reverse
      if Text.containsChars inner opening || Text.containsChars inner closing then none
      else some inner

end Template

namespace Scope

/-- The value of an operand. -/
def resolve (scope : Scope) : Json → Json
  | .str s =>
    match Template.single? s.toList with
    | some inner => (scope.lookup inner).getD .null
    | none =>
      if Text.containsChars s.toList Template.opening then .str (Template.render scope s)
      else .str s
  | j => j

mutual

/-- A value with the operands inside it resolved. -/
def resolveDeep (scope : Scope) : Json → Json
  | .arr items => .arr (resolveItems scope items)
  | .obj fields => .obj (resolveFields scope fields)
  | j => scope.resolve j

/-- The items of an array with the operands inside them resolved. -/
def resolveItems (scope : Scope) : List Json → List Json
  | [] => []
  | j :: rest => resolveDeep scope j :: resolveItems scope rest

/-- The fields of an object with the operands inside them resolved. -/
def resolveFields (scope : Scope) : List (String × Json) → List (String × Json)
  | [] => []
  | (name, j) :: rest => (name, resolveDeep scope j) :: resolveFields scope rest

end

end Scope

end FlowGraph
