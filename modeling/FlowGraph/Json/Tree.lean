import FlowGraph.Json.Printer
import FlowGraph.Text.Quoted

/-! # Documents and their decoding

A `Tree` is a document as a decoder meets it, whichever notation it is written in. A decoder walks
the tree in document order and stops at the first thing it cannot use, so a text that breaks off
is a tree as well: where it breaks off stands `Tree.broken`, and everything before is decoded
first.

* `Tree.value` reads a tree as a JSON value, `Tree.text`, `Tree.items` and `Tree.entriesOf` as a
  string, a list and a map.
* `Tree.record` opens a map, or a list that gives the fields by position, as a record;
  `Record.scan` then goes through its entries.
* `Tree.ofJson` is the tree of a JSON value.
* A `Shape` says which parts of a document a decoder reads, so that a notation can tell the parts
  that are passed over.

An error inside of a list, a map or a record is kept with the steps that lead to it
(`DecodeError.within`). `DecodeError.message` is its wording alone, `DecodeError.placedMessage` puts
the path before it. -/

namespace FlowGraph

/-! ### Decoding errors -/

/-- A step from a list, a map or a record to a part of it. -/
inductive DecodeError.Step where
  | item (position : Nat)
  | field (name : String)
  /-- To a field whose name stands elsewhere in the document. -/
  | unnamed
deriving DecidableEq

/-- The path one step further; none is the path of the whole document. -/
def DecodeError.Step.extend (path : Option String) : Step → String
  | item position => path.getD "." ++ "[" ++ toString position ++ "]"
  | field name => (path.map (· ++ ".")).getD "" ++ name
  | unnamed => (path.map (· ++ ".")).getD "" ++ "?"

/-- Why a document does not decode. -/
inductive DecodeError where
  /-- The text is not well-formed, or goes beyond what a decoder follows. -/
  | malformed
  | mismatch (found expected : String)
  | wrongValue (found expected : String)
  | missing (field : String)
  | duplicate (field : String)
  | tooShort (length : Nat) (expected : String)
  /-- A list gives more than the fields of a record. -/
  | surplus (length : Nat)
  | noVariant (choice : String)
  | invalid (reason : String)
  /-- An error in a part of a document. -/
  | within (step : DecodeError.Step) (inner : DecodeError)
deriving DecidableEq

namespace DecodeError

/-- The wording of a decoding error. -/
def message : DecodeError → String
  | malformed => "malformed text"
  | mismatch found expected => "invalid type: " ++ found ++ ", expected " ++ expected
  | wrongValue found expected => "invalid value: " ++ found ++ ", expected " ++ expected
  | missing field => "missing field `" ++ field ++ "`"
  | duplicate field => "duplicate field `" ++ field ++ "`"
  | tooShort length expected =>
    "invalid length " ++ toString length ++ ", expected " ++ expected
  | surplus length =>
    "invalid length " ++ toString length ++ ", expected fewer elements in array"
  | noVariant choice => "data did not match any variant of untagged enum " ++ choice
  | invalid reason => reason
  | within _ inner => inner.message

/-- What is wrong, without its place. -/
def cause : DecodeError → DecodeError
  | within _ inner => inner.cause
  | e => e

/-- The wording of the error of a part at `path`, with the path to the place in front. A text that is
not well-formed has no place. -/
def placedMessage (path : Option String) : DecodeError → String
  | within step inner => inner.placedMessage (some (step.extend path))
  | malformed => malformed.message
  | e => (path.map (· ++ ": ")).getD "" ++ e.message

/-- The error as it shows in a text: what follows the last field of a record is out of place. -/
def inText : DecodeError → DecodeError
  | surplus _ => malformed
  | within step inner => within step inner.inText
  | e => e

end DecodeError

/-- A value of a document, or why there is none. -/
abbrev Decoded (α : Type) := Except DecodeError α

/-- What a part gives to the whole: its value, or its error with the step that leads to it. -/
def Decoded.behind {α : Type} (step : DecodeError.Step) (d : Decoded α) : Decoded α :=
  d.mapError (.within step)

/-! ### Trees -/

/-- A scalar of a document. -/
structure Scalar where
  /-- What it gives where a text is asked for. -/
  text : Option String
  /-- What it gives where any value is asked for. -/
  value : Decoded Json
  /-- What an error calls it where something else is asked for. -/
  looks : Decoded Json
  /-- Whether it stands for an optional value that is not there. -/
  isAbsent : Decoded Bool
  /-- Whether it stands for a list or a map without entries. -/
  isBlank : Bool := false
  /-- The name by which a path goes on behind it, if it is written where it stands. -/
  label : Option String := none

/-- Whether a list can give the fields of a record in their order. -/
inductive Positional where
  | never
  /-- It can, with no item left over. -/
  | exactly
  /-- It can, and the items after the last field are passed over. -/
  | leading
deriving DecidableEq

/-- A document. -/
inductive Tree where
  | scalar (s : Scalar)
  | seq (positional : Positional) (items : List Tree)
  | map (entries : List (Tree × Tree))
  /-- A list or a map under a tag that no JSON value carries. -/
  | tagged (content : Tree)
  /-- The place where the text breaks off. -/
  | broken

namespace Tree

/-- A scalar that can be skipped and not read. -/
def unreadable : Tree := .scalar {
  text := none
  value := .error .malformed
  looks := .error .malformed
  isAbsent := .error .malformed }

/-- A string of a document. -/
def ofText (s : String) : Tree := .scalar {
  text := some s
  value := .ok (.str s)
  looks := .ok (.str s)
  isAbsent := .ok false
  label := some s }

/-- A JSON scalar. -/
def ofAtom (j : Json) : Tree := .scalar {
  text := j.asText?
  value := .ok j
  looks := .ok j
  isAbsent := .ok j.isNull }

mutual

/-- The tree of a JSON value. -/
def ofJson : Json → Tree
  | .arr items => .seq .exactly (ofItems items)
  | .obj fields => .map (ofFields fields)
  | j => ofAtom j

/-- The trees of the items of an array. -/
def ofItems : List Json → List Tree
  | [] => []
  | j :: rest => ofJson j :: ofItems rest

/-- The entries of the fields of an object. -/
def ofFields : List (String × Json) → List (Tree × Tree)
  | [] => []
  | (name, j) :: rest => (ofText name, ofJson j) :: ofFields rest

end

mutual

/-- Whether the text does not break off inside the tree. -/
def isSound : Tree → Bool
  | .scalar _ => true
  | .seq _ items => areSound items
  | .map entries => entriesAreSound entries
  | .tagged content => isSound content
  | .broken => false

/-- Whether the text does not break off inside any of the items. -/
def areSound : List Tree → Bool
  | [] => true
  | t :: rest => isSound t && areSound rest

/-- Whether the text does not break off inside any of the entries. -/
def entriesAreSound : List (Tree × Tree) → Bool
  | [] => true
  | (k, t) :: rest => isSound k && isSound t && entriesAreSound rest

end

/-! ### Scalars -/

/-- How an error names a JSON scalar. -/
def describeAtom : Json → String
  | .null => "null"
  | .bool b => "boolean `" ++ (if b then "true" else "false") ++ "`"
  | .int n => "integer `" ++ toString n ++ "`"
  | .float d => "floating point `" ++ d.exponentText ++ "`"
  | .str s => "string " ++ Text.quoted s
  | .arr _ => "sequence"
  | .obj _ => "map"

/-- The error of a tree met where something else is expected. -/
def mismatch (expected : String) : Tree → DecodeError
  | .scalar s => match s.looks with
    | .error e => e
    | .ok j => .mismatch (describeAtom j) expected
  | .seq _ _ => .mismatch "sequence" expected
  | .map _ => .mismatch "map" expected
  | .tagged content => mismatch expected content
  | .broken => .malformed

/-- A string. -/
def text (t : Tree) : Decoded String :=
  match t with
  | .scalar { text := some s, .. } => .ok s
  | t => .error (t.mismatch "a string")

/-- An optional value. -/
def optional {α : Type} (read : Tree → Decoded α) (t : Tree) : Decoded (Option α) :=
  match t with
  | .scalar { isAbsent := .ok true, .. } => .ok none
  | .scalar { isAbsent := .error e, .. } => .error e
  | t => (read t).map some

/-- The step from a map to the value of a key. -/
def stepBehind : Tree → DecodeError.Step
  | .scalar { label := some name, .. } => .field name
  | _ => .unnamed

/-- What is met where any JSON value is expected and a tag does not allow it. -/
def tagMismatch : DecodeError := .mismatch "enum" "any valid JSON value"

mutual

/-- Any JSON value. -/
def value : Tree → Decoded Json
  | .scalar s => s.value
  | .seq _ items => (valuesOf 0 items).map Json.arr
  | .map entries => (fieldsOf [] entries).map Json.obj
  | .tagged _ => .error tagMismatch
  | .broken => .error .malformed

/-- The values of the items of a list from a position on. -/
def valuesOf (position : Nat) : List Tree → Decoded (List Json)
  | [] => .ok []
  | t :: rest => do
    let j ← (value t).behind (.item position)
    let js ← valuesOf (position + 1) rest
    .ok (j :: js)

/-- The fields of a map, put one by one into those read before. -/
def fieldsOf (fields : Fields Json) : List (Tree × Tree) → Decoded (Fields Json)
  | [] => .ok fields
  | (k, t) :: rest => do
    let name ← text k
    let j ← (value t).behind k.stepBehind
    fieldsOf (Fields.insert name j fields) rest

end

/-- An unsigned number below `limit`, which an error calls `expected`. -/
def natural (limit : Nat) (expected : String) (t : Tree) : Decoded Nat :=
  match t with
  | .scalar { value := .ok (.int n), .. } =>
    if 0 ≤ n ∧ n < limit then .ok n.toNat
    else .error (.wrongValue (describeAtom (.int n)) expected)
  | t => .error (t.mismatch expected)

/-! ### Lists and maps -/

/-- Reads the items of a list one by one. -/
def readItems {α : Type} (read : Tree → Decoded α) (items : List Tree) : Decoded (List α) :=
  items.zipIdx.mapM fun (t, position) => (read t).behind (.item position)

/-- A list, its items read one by one. -/
def items {α : Type} (read : Tree → Decoded α) (t : Tree) : Decoded (List α) :=
  match t with
  | .seq _ items => readItems read items
  | .tagged (.seq _ items) => readItems read items
  | .scalar { isBlank := true, .. } => .ok []
  | t => .error (t.mismatch "a sequence")

/-- The entries of a map, put one by one into those read before. -/
def insertEntries {α : Type} (read : Tree → Decoded α) (fields : Fields α) :
    List (Tree × Tree) → Decoded (Fields α)
  | [] => .ok fields
  | (k, t) :: rest => do
    let name ← k.text
    let v ← (read t).behind k.stepBehind
    insertEntries read (Fields.insert name v fields) rest

/-- A map with any names; of entries with one name the last stays. -/
def entriesOf {α : Type} (read : Tree → Decoded α) (t : Tree) : Decoded (Fields α) :=
  match t with
  | .map entries => insertEntries read [] entries
  | .tagged (.map entries) => insertEntries read [] entries
  | .scalar { isBlank := true, .. } => .ok []
  | t => .error (t.mismatch "a map")

end Tree

/-! ### Records -/

/-- A record of a document: its entries in document order, the error of a field that is not
there, and the error of a list with more items than the record has fields. -/
structure Record where
  entries : List (Tree × Tree)
  absent : String → DecodeError
  excess : Option DecodeError

namespace Record

/-- A record given by a map. -/
def ofMap (entries : List (Tree × Tree)) : Record := ⟨entries, .missing, none⟩

/-- A record given by a list, field by field. -/
def ofSeq (name : String) (fields : List String) (items : List Tree) : Record where
  entries := (fields.map Tree.ofText).zip items
  absent field := .tooShort (fields.idxOf field)
    ("struct " ++ name ++ " with " ++ toString fields.length ++ " elements")
  excess := if fields.length < items.length then some (.surplus items.length) else none

/-- Goes through the entries in document order. -/
def scan {σ : Type} (step : σ → String → Tree → Decoded σ) (start : σ) (r : Record) : Decoded σ :=
  r.entries.foldlM (fun s (k, t) => do step s (← k.text) t) start

/-- Fills a field that may be given once. -/
def once {α : Type} (name : String) (slot : Option α) (read : Tree → Decoded α) (t : Tree) :
    Decoded (Option α) :=
  if slot.isSome then .error (.duplicate name) else ((read t).behind (.field name)).map some

/-- Passes over the value of a name the record does not have. -/
def skip {σ : Type} (s : σ) (t : Tree) : Decoded σ :=
  if t.isSound then .ok s else .error .malformed

/-- A field that must be there. -/
def require {α : Type} (r : Record) (name : String) (slot : Option α) : Decoded α :=
  match slot with
  | some a => .ok a
  | none => .error (r.absent name)

/-- The finished record, unless the list goes on after its last field. -/
def close {α : Type} (r : Record) (a : α) : Decoded α :=
  match r.excess with
  | none => .ok a
  | some e => .error e

end Record

namespace Tree

/-- Opens a record with the given fields. -/
def record (name : String) (fields : List String) (t : Tree) : Decoded Record :=
  match t with
  | .map entries => .ok (.ofMap entries)
  | .tagged (.map entries) => .ok (.ofMap entries)
  | .seq .exactly items => .ok (.ofSeq name fields items)
  | .seq .leading items => .ok (.ofSeq name fields (items.take fields.length))
  | .scalar { isBlank := true, .. } => .ok (.ofMap [])
  | t => .error (t.mismatch ("struct " ++ name))

/-- Opens a record that only a map can give. -/
def mapRecord (name : String) (t : Tree) : Decoded Record :=
  match t with
  | .map entries => .ok (.ofMap entries)
  | t => .error (t.mismatch ("struct " ++ name))

end Tree

/-! ### Shapes -/

/-- Which parts of a document a decoder reads. The others are passed over. -/
inductive Shape where
  | nothing
  | all
  /-- Of a list the same parts of every item. -/
  | each (item : Shape)
  /-- Of a map the values of some names. -/
  | fields (known : List (String × Shape))

namespace Shape

/-- What is read of an item of a list. -/
def item : Shape → Shape
  | all => all
  | each s => s
  | _ => nothing

/-- What is read of the value of a name. -/
def field (name : String) : Shape → Shape
  | all => all
  | fields known => (known.lookup name).getD nothing
  | _ => nothing

/-- The shape of a record with fields that are read as a whole. -/
def ofNames (names : List String) : Shape := fields (names.map fun name => (name, all))

end Shape

end FlowGraph
