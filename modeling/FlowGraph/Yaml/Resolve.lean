import FlowGraph.Json.Tree
import FlowGraph.Number.Decimal
import FlowGraph.Number.Radix
import FlowGraph.Yaml.Node

/-! # What YAML nodes stand for

A plain scalar without a tag is read by its looks: null, a boolean, a number, or else a text. Every
other scalar is a text, unless a tag asks for one of those. Where a text is wanted, any scalar gives
its own.

An alias stands for the node with its anchor. `Document.tree` puts such nodes in place where a reader
of a certain shape looks; lists and maps nested too deep, and nodes behind too many aliases, cannot
be read. What the reader passes over may nest as deep as it likes, and its aliases do not count. -/

namespace FlowGraph

namespace Yaml

/-! ### Plain scalars -/

namespace Plain

/-- The words for nothing. -/
def isNullWord (s : String) : Bool := s == "null" || s == "Null" || s == "NULL" || s == "~"

/-- The boolean of a word. -/
def bool? (s : String) : Option Bool :=
  if s == "true" || s == "True" || s == "TRUE" then some true
  else if s == "false" || s == "False" || s == "FALSE" then some false
  else none

/-- Digits of a base, at least one. -/
def natural? (base : Nat) (cs : List Char) : Option Nat :=
  if cs.isEmpty then none else ofRadix? base cs

/-- A number that begins with zeros, which is a text. -/
def isPadded : List Char → Bool
  | '0' :: c :: cs => (c :: cs).all Char.isDigit
  | _ => false

/-- A whole number without a sign, in base 16, 8, 2 or 10. -/
def magnitude? (cs : List Char) : Option Nat :=
  match cs with
  | '0' :: 'x' :: ds => natural? 16 ds
  | '0' :: 'o' :: ds => natural? 8 ds
  | '0' :: 'b' :: ds => natural? 2 ds
  | ds => if isPadded ds then none else natural? 10 ds

/-- A whole number. -/
def integer? (cs : List Char) : Option Int :=
  match cs with
  | '-' :: ds => (magnitude? ds).map fun n => -(n : Int)
  | '+' :: ds => (magnitude? ds).map fun n => (n : Int)
  | ds => (magnitude? ds).map fun n => (n : Int)

/-- A whole number of 128 bits, signed if it is negative. Larger ones are no whole numbers. -/
def wide? (cs : List Char) : Option Int :=
  (integer? cs).filter fun n => -(Nat.pow 2 127) ≤ n && n < Nat.pow 2 128

/-- The words for infinity. -/
def isInfinity (s : String) : Bool := s == ".inf" || s == ".Inf" || s == ".INF"

/-- The words for what is no number. -/
def isNotNumber (s : String) : Bool := s == ".nan" || s == ".NaN" || s == ".NAN"

/-- Whether the text begins with a sign. -/
def isSigned : List Char → Bool
  | c :: _ => c == '+' || c == '-'
  | [] => false

/-- A double. -/
def double? (s : String) : Option Double :=
  let cs := s.toList
  let bare := if cs.head? = some '+' then cs.drop 1 else cs
  if cs.head? = some '+' && isSigned bare then none
  else if isInfinity (String.ofList bare) then some (.ofMagnitude false Double.infinityMagnitude)
  else if cs.head? = some '-' && isInfinity (String.ofList (cs.drop 1)) then
    some (.ofMagnitude true Double.infinityMagnitude)
  else if isNotNumber s then some .nan
  else (Decimal.parseDouble? (String.ofList bare)).filter Double.isFinite

/-- What a plain scalar looks like: null, a boolean, a number or a text. -/
def looks (s : String) : Json :=
  if s.isEmpty || isNullWord s then .null
  else match bool? s with
    | some b => .bool b
    | none => match wide? s.toList with
      | some n => .int n
      | none =>
        if isPadded (s.toList.drop (if isSigned s.toList then 1 else 0)) then .str s
        else match double? s with
          | some d => .ofDouble d
          | none => .str s

end Plain

/-! ### Scalars -/

namespace Scalar

/-- The error of a text that is not of the type of its tag. -/
def wrong (text expected : String) : DecodeError :=
  .wrongValue (Tree.describeAtom (.str text)) expected

/-- What a scalar looks like. -/
def looks (tag : Option Tag) (text : String) (plain : Bool) : Decoded Json :=
  match tag with
  | some .bool => (Plain.bool? text).elim (.error (wrong text "a boolean")) fun b => .ok (.bool b)
  | some .int =>
    (Plain.wide? text.toList).elim (.error (wrong text "an integer")) fun n => .ok (.int n)
  | some .float =>
    (Plain.double? text).elim (.error (wrong text "a float")) fun d => .ok (.ofDouble d)
  | some .null => if Plain.isNullWord text then .ok .null else .error (wrong text "null")
  | some .foreign => .ok (.str text)
  | some .own | some .garbled | none => .ok (if plain then Plain.looks text else .str text)

/-- The value of what a scalar looks like: a number that no value holds exactly is out of range. -/
def exact : Json → Decoded Json
  | .int n => if Json.isExact n then .ok (.int n) else .error (.invalid "JSON number out of range")
  | j => .ok j

/-- Whether a scalar stands for an optional value that is not there. -/
def isAbsent (tag : Option Tag) (text : String) (plain : Bool) : Decoded Bool :=
  if !plain then .ok false
  else match tag with
    | none => .ok (text.isEmpty || Plain.isNullWord text)
    | some .null => if Plain.isNullWord text then .ok true else .error (wrong text "null")
    | some _ => .ok false

/-- The tree of a scalar. -/
def tree (tag : Option Tag) (text : String) (plain : Bool) : Tree :=
  let looks := looks tag text plain
  .scalar {
    text := some text
    value := if tag = some .own then .error Tree.tagMismatch else looks.bind exact
    looks
    isAbsent := isAbsent tag text plain
    isBlank := plain && text.isEmpty
    label := some text }

end Scalar

/-! ### Aliases -/

/-- The anchors of a document. An anchor is known by a number, which is how many names were known
when it was met. -/
structure Anchors where
  numbers : Fields Nat := []
  /-- How many nodes with an anchor have begun. -/
  begun : Nat := 0
  /-- The nodes with their numbers and with how many had begun before them. -/
  nodes : List (Nat × Nat × Node Nat) := []

namespace Anchors

/-- Begins a node. -/
def begin (a : Anchors) (p : Properties) : Anchors :=
  match p.anchor with
  | none => a
  | some name => { a with
      numbers := Fields.insert name a.numbers.length a.numbers
      begun := a.begun + 1 }

/-- Keeps a node that began when the anchors were `before`. -/
def keep (a before : Anchors) (p : Properties) (n : Node Nat) : Anchors :=
  match p.anchor with
  | none => a
  | some _ => { a with nodes := (before.numbers.length, before.begun, n) :: a.nodes }

/-- The node of a number: of several the one that began last. -/
def node? (a : Anchors) (number : Nat) : Option (Node Nat) :=
  let found := a.nodes.filter fun n => n.1 == number
  (found.find? fun n => found.all fun m => m.2.1 ≤ n.2.1).map (·.2.2)

end Anchors

namespace Node

mutual

/-- Finds the numbers of aliases. An alias of an unknown name ends the document. -/
def link : Node String → Anchors → Node Nat × Option Anchors
  | .scalar p text plain, a =>
    let n := .scalar p text plain
    (n, some ((a.begin p).keep a p n))
  | .seq p items, a =>
    let (items, after) := linkItems items (a.begin p)
    let n := .seq p items
    (n, after.map fun after => after.keep a p n)
  | .map p entries, a =>
    let (entries, after) := linkEntries entries (a.begin p)
    let n := .map p entries
    (n, after.map fun after => after.keep a p n)
  | .alias name, a =>
    match Fields.get? a.numbers name with
    | some number => (.alias number, some a)
    | none => (.broken, none)
  | .broken, a => (.broken, some a)

/-- Finds the numbers of aliases in items. -/
def linkItems : List (Node String) → Anchors → List (Node Nat) × Option Anchors
  | [], a => ([], some a)
  | n :: rest, a =>
    match link n a with
    | (n, none) => ([n], none)
    | (n, some a) =>
      let (ns, last) := linkItems rest a
      (n :: ns, last)

/-- Finds the numbers of aliases in entries. -/
def linkEntries : List (Node String × Node String) → Anchors →
    List (Node Nat × Node Nat) × Option Anchors
  | [], a => ([], some a)
  | (k, n) :: rest, a =>
    match link k a with
    | (k, none) => ([(k, .broken)], none)
    | (k, some a) =>
      match link n a with
      | (n, none) => ([(k, n)], none)
      | (n, some a) =>
        let (es, last) := linkEntries rest a
        ((k, n) :: es, last)

end

mutual

/-- How many steps a reader makes through a node. -/
def size : Node Nat → Nat
  | .scalar _ _ _ => 1
  | .seq _ items => sizeOfItems items + 2
  | .map _ entries => sizeOfEntries entries + 2
  | .alias _ => 1
  | .broken => 0

/-- How many steps a reader makes through items. -/
def sizeOfItems : List (Node Nat) → Nat
  | [] => 0
  | n :: rest => size n + sizeOfItems rest

/-- How many steps a reader makes through entries. -/
def sizeOfEntries : List (Node Nat × Node Nat) → Nat
  | [] => 0
  | (k, n) :: rest => size k + size n + sizeOfEntries rest

end

mutual

/-- Whether the text does not break off inside of a node. -/
def isWhole : Node Nat → Bool
  | .scalar _ _ _ => true
  | .seq _ items => areWhole items
  | .map _ entries => entriesAreWhole entries
  | .alias _ => true
  | .broken => false

/-- Whether the text does not break off inside of any item. -/
def areWhole : List (Node Nat) → Bool
  | [] => true
  | n :: rest => isWhole n && areWhole rest

/-- Whether the text does not break off inside of any entry. -/
def entriesAreWhole : List (Node Nat × Node Nat) → Bool
  | [] => true
  | (k, n) :: rest => isWhole k && isWhole n && entriesAreWhole rest

end

end Node

/-! ### Trees -/

namespace Expansion

/-- Lists and maps nested deeper than this cannot be read. -/
def depthLimit : Nat := 128

/-- What gives the tree of a node that is read in a shape, and counts the aliases met. -/
abbrev Grow := Shape → Node Nat → Nat → Tree × Nat

/-- The trees of items. -/
def growItems (grow : Grow) (shape : Shape) : List (Node Nat) → Nat → List Tree × Nat
  | [], met => ([], met)
  | n :: rest, met =>
    let (t, met) := grow shape.item n met
    let (ts, met) := growItems grow shape rest met
    (t :: ts, met)

/-- The trees of entries; a key says what is read of its value. -/
def growEntries (grow : Grow) (shape : Shape) :
    List (Node Nat × Node Nat) → Nat → List (Tree × Tree) × Nat
  | [], met => ([], met)
  | (k, n) :: rest, met =>
    let (kt, met) := grow .all k met
    let (t, met) := grow (kt.text.toOption.elim .nothing shape.field) n met
    let (ts, met) := growEntries grow shape rest met
    ((kt, t) :: ts, met)

/-- A list or a map with its tag. -/
def withTag (p : Properties) (content : Tree) : Tree :=
  if p.tag = some .own then .tagged content else content

/-- The tree behind an alias, which writes no name for a path where it stands. -/
def behindAlias : Tree → Tree
  | .scalar s => .scalar { s with label := none }
  | t => t

/-- The tree of a node at a level. At most `limit` aliases are followed. -/
def grow (anchors : Anchors) (limit : Nat) : Nat → Nat → Grow
  | 0, _, _, _, met => (.unreadable, met)
  | _ + 1, _, .nothing, n, met => (if n.isWhole then .unreadable else .broken, met)
  | fuel + 1, level, shape, n, met =>
    let inner := grow anchors limit fuel (level + 1)
    match n with
    | .scalar p text plain => (Scalar.tree p.tag text plain, met)
    | .seq p items =>
      let (ts, met) :=
        if level < depthLimit then growItems inner shape items met else ([.unreadable], met)
      (withTag p (.seq .never ts), met)
    | .map p entries =>
      let (es, met) :=
        if level < depthLimit then growEntries inner shape entries met
        else ([(.unreadable, .unreadable)], met)
      (withTag p (.map es), met)
    | .alias number =>
      if limit ≤ met then (.unreadable, met + 1)
      else match anchors.node? number with
        | some n =>
          let (t, met) := grow anchors limit fuel level shape n (met + 1)
          (behindAlias t, met)
        | none => (.unreadable, met + 1)
    | .broken => (.broken, met)

end Expansion

/-- The tree of a document without content. -/
def voidTree : Tree := .scalar {
  text := none
  value := .ok .null
  looks := .error .malformed
  isAbsent := .ok true
  isBlank := true }

/-- The tree of a document that is read in a shape, and whether the document is the whole text. -/
def Document.tree (shape : Shape) (d : Document) : Tree × Bool :=
  match d.root with
  | none => (voidTree, d.isLast)
  | some root =>
    let (n, anchors) := root.link {}
    let fuel := 2 * n.size + 2
    let known := anchors.getD {}
    ((Expansion.grow known (100 * n.size) fuel 0 shape n 0).1, anchors.isSome && d.isLast)

/-- Decodes a whole text of one document with a reader of a shape. -/
def decodeText {α : Type} (shape : Shape) (read : Tree → Decoded α) (text : String) : Decoded α :=
  let (t, whole) := (Document.ofTokens (Token.scan text)).tree shape
  match read t with
  | .error e => .error e
  | .ok a => if whole then .ok a else .error .malformed

end Yaml

end FlowGraph
