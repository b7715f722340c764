import FlowGraph.Json.Tree

/-! # TOML documents

A document is a table of tables, written as a list of sections. A section begins with the name of
its table, except the first, which belongs to the root; its entries may name tables on the way by
dotted keys. Every table may be opened once by its name, and tables that only occur on the way to
others may be opened later.

* `Toml.put` puts an entry into a table by its dotted key.
* `Section.addTo` puts a section into the root, `Toml.ofSections` all of them.
* `Toml.tree` is a document as decoders see it. -/

namespace FlowGraph

namespace Toml

/-- Where a table comes from. -/
inductive Origin where
  /-- It was written as a value and is complete. -/
  | inline
  /-- It has a section. -/
  | header
  /-- It stands on the way of a dotted key. -/
  | dotted
  /-- It stands on the way of the name of a section. -/
  | implied
deriving DecidableEq

end Toml

/-- A value of a document. -/
inductive Toml where
  | text (s : String)
  | integer (n : Int)
  | float (d : Double)
  | boolean (b : Bool)
  /-- A date, a time of day, or both. -/
  | moment (s : String)
  | array (items : List Toml)
  | table (origin : Toml.Origin) (fields : List (String × Toml))
  /-- A list of tables with a section each; the last one can still be extended. -/
  | tables (earlier : List Toml) (last : List (String × Toml))

namespace Toml

/-! ### Tables -/

/-- What leads to a table. -/
inductive Way where
  | header
  | dotted
deriving DecidableEq

/-- The origin of a table first met on the way. -/
def Way.origin : Way → Origin
  | header => .implied
  | dotted => .dotted

/-- Whether a way leads through a table. A dotted key passes no table that has a section. -/
def Way.passes (way : Way) (origin : Origin) : Bool :=
  match way, origin with
  | _, .inline => false
  | .header, _ => true
  | .dotted, .header => false
  | .dotted, _ => true

/-- Changes the table at a path. Tables that are not there are made, and of a list of tables the
last one is meant. -/
def change (way : Way) (f : Origin → Fields Toml → Option (Fields Toml)) :
    List String → Origin → Fields Toml → Option (Fields Toml)
  | [], origin, fields => f origin fields
  | name :: path, _, fields =>
    match Fields.get? fields name with
    | none => do
      let made ← change way f path way.origin []
      some (Fields.insert name (.table way.origin made) fields)
    | some (.table origin inner) =>
      if way.passes origin then do
        let changed ← change way f path origin inner
        some (Fields.insert name (.table origin changed) fields)
      else none
    | some (.tables earlier last) => do
      let changed ← change way f path .header last
      some (Fields.insert name (.tables earlier changed) fields)
    | some _ => none

/-- An entry of a section: the names on the way, the last name, and the value. -/
structure Entry where
  path : List String
  name : String
  value : Toml

/-- Adds a field that is not there yet. -/
def addField (name : String) (value : Toml) (fields : Fields Toml) : Option (Fields Toml) :=
  if Fields.contains fields name then none else some (Fields.insert name value fields)

/-- Puts an entry into a table. The table at the end of a dotted way must have been made by dotted
keys. -/
def put (fields : Fields Toml) (e : Entry) : Option (Fields Toml) :=
  change .dotted
    (fun origin inner =>
      if e.path.isEmpty || origin == .dotted then addField e.name e.value inner else none)
    e.path .header fields

/-- The table of entries given inside a value. -/
def inlineTable (entries : List Entry) : Option Toml :=
  (entries.foldlM put []).map (.table .inline)

/-! ### Sections -/

/-- The name of a section. -/
inductive Header where
  | table (path : List String) (name : String)
  /-- One more of a list of tables. -/
  | element (path : List String) (name : String)

/-- A name and the entries after it. The first section has no name. -/
structure Section where
  header : Option Header
  entries : List Entry

/-- Opens the table of a section: it is new, or only known from the way to others. -/
def openTable (name : String) (entries : List Entry) (fields : Fields Toml) :
    Option (Fields Toml) := do
  let before ← match Fields.get? fields name with
    | none => some []
    | some (.table .implied inner) => some inner
    | some _ => none
  let inner ← entries.foldlM put before
  some (Fields.insert name (.table .header inner) fields)

/-- Opens one more table of a list. -/
def openElement (name : String) (entries : List Entry) (fields : Fields Toml) :
    Option (Fields Toml) := do
  let earlier ← match Fields.get? fields name with
    | none => some []
    | some (.tables earlier last) => some (earlier ++ [.table .header last])
    | some _ => none
  let inner ← entries.foldlM put []
  some (Fields.insert name (.tables earlier inner) fields)

/-- Puts a section into the root. -/
def Section.addTo (root : Fields Toml) (s : Section) : Option (Fields Toml) :=
  match s.header with
  | none => s.entries.foldlM put root
  | some (.table path name) =>
    change .header (fun _ => openTable name s.entries) path .header root
  | some (.element path name) =>
    change .header (fun _ => openElement name s.entries) path .header root

/-- The document of its sections. -/
def ofSections (sections : List Section) : Option Toml :=
  (sections.foldlM Section.addTo []).map (.table .header)

/-! ### Documents as trees -/

/-- The name under which the text of a date or a time stands. -/
def momentKey : String := "moment"

mutual

/-- The tree of a value. A date or a time is a map, which no setting is. -/
def tree : Toml → Tree
  | .text s => .ofText s
  | .integer n => .ofAtom (.int n)
  | .float d => .ofAtom (.float d)
  | .boolean b => .ofAtom (.bool b)
  | .moment s => .map [(.ofText momentKey, .ofText s)]
  | .array items => .seq .leading (trees items)
  | .table _ fields => .map (entries fields)
  | .tables earlier last => .seq .leading (trees earlier ++ [.map (entries last)])

/-- The trees of the items of an array. -/
def trees : List Toml → List Tree
  | [] => []
  | v :: rest => tree v :: trees rest

/-- The entries of the fields of a table. -/
def entries : List (String × Toml) → List (Tree × Tree)
  | [] => []
  | (name, v) :: rest => (.ofText name, tree v) :: entries rest

end

end Toml

end FlowGraph
