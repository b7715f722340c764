import FlowGraph.Yaml.Token

/-! # Nodes of YAML documents

Tokens make nodes: scalars, lists, maps, and aliases of nodes with an anchor. Any node may have an
anchor and a tag. A mapping or a list without an entry behind its mark has an empty scalar there.

Where the tokens stop or are out of place stands `Node.broken`, and nothing comes behind it. -/

namespace FlowGraph

namespace Yaml

/-- What may stand before a node. -/
structure Properties where
  anchor : Option String := none
  tag : Option Tag := none

/-- A node; `ρ` says what an alias refers to. -/
inductive Node (ρ : Type) where
  | scalar (properties : Properties) (text : String) (plain : Bool)
  | seq (properties : Properties) (items : List (Node ρ))
  | map (properties : Properties) (entries : List (Node ρ × Node ρ))
  | alias (target : ρ)
  /-- The place where the text breaks off. -/
  | broken

namespace Node

/-- A node that is left out. -/
def empty {ρ : Type} (properties : Properties := {}) : Node ρ := scalar properties "" true

/-! ### Reading -/

/-- A part of a document and the tokens behind it, unless the text breaks off inside. -/
abbrev Found (α : Type) := α × Option (List Token)

/-- Where a node stands, which says what it may be. -/
inductive Place where
  /-- Inside of brackets. -/
  | flow
  /-- In a block. -/
  | block
  /-- In an entry of a mapping, where a list need not be indented. -/
  | entry
deriving DecidableEq

/-- Reads an anchor and a tag in any order; nothing if the tag has an unknown handle. -/
def readProperties (rules : Tag.Rules) (ts : List Token) : Option (Properties × List Token) :=
  match ts with
  | .anchor a :: .tag h s :: rest => (Tag.ofParts? rules h s).map fun t => (⟨some a, some t⟩, rest)
  | .anchor a :: rest => some (⟨some a, none⟩, rest)
  | .tag h s :: .anchor a :: rest => (Tag.ofParts? rules h s).map fun t => (⟨some a, some t⟩, rest)
  | .tag h s :: rest => (Tag.ofParts? rules h s).map fun t => (⟨none, some t⟩, rest)
  | ts => some ({}, ts)

/-- Whether nothing stands before the token inside an entry of a mapping. -/
def endsBlockEntry : Token → Bool
  | .key | .value | .blockEnd => true
  | _ => false

/-- Whether nothing stands before the token inside an entry of a list in a block. -/
def endsBlockItem : Token → Bool
  | .entry | .blockEnd => true
  | _ => false

/-- Whether nothing stands before the token inside an entry of a list that is not indented. -/
def endsLooseItem (t : Token) : Bool := endsBlockEntry t || endsBlockItem t

/-- Whether nothing stands before the token inside an entry of a mapping in braces. -/
def endsFlowEntry : Token → Bool
  | .comma | .flowMappingEnd => true
  | _ => false

/-- Whether nothing stands before the token inside an entry of a list in brackets. -/
def endsFlowItem : Token → Bool
  | .comma | .flowSequenceEnd => true
  | _ => false

mutual

/-- Reads a node. -/
def read (rules : Tag.Rules) : Nat → Place → List Token → Found (Node String)
  | 0, _, _ => (.broken, none)
  | fuel + 1, place, ts =>
    match ts with
    | .alias name :: rest => (.alias name, some rest)
    | ts =>
      match readProperties rules ts with
      | none => (.broken, none)
      | some (_, []) => (.broken, none)
      | some (p, t :: rest) =>
        if t = .entry ∧ place = .entry then
          let (items, after) := readLoose rules fuel (t :: rest)
          (.seq p items, after)
        else match t with
          | .scalar text plain => (scalar p text plain, some rest)
          | .flowSequenceStart =>
            let (items, after) := readFlowItems rules fuel true rest
            (.seq p items, after)
          | .flowMappingStart =>
            let (entries, after) := readFlowEntries rules fuel true rest
            (.map p entries, after)
          | .blockSequenceStart =>
            if place = .flow then (.broken, none)
            else
              let (items, after) := readItems rules fuel rest
              (.seq p items, after)
          | .blockMappingStart =>
            if place = .flow then (.broken, none)
            else
              let (entries, after) := readEntries rules fuel rest
              (.map p entries, after)
          | t =>
            if p.anchor.isSome || p.tag.isSome then (.empty p, some (t :: rest))
            else (.broken, none)

/-- Reads a node, or an empty one before a token that ends it. -/
def readOrEmpty (rules : Tag.Rules) :
    Nat → Place → (Token → Bool) → List Token → Found (Node String)
  | 0, _, _, _ => (.broken, none)
  | _ + 1, _, _, [] => (.broken, none)
  | fuel + 1, place, ends, t :: rest =>
    if ends t then (.empty, some (t :: rest)) else read rules fuel place (t :: rest)

/-- Reads the items of a list in a block. -/
def readItems (rules : Tag.Rules) : Nat → List Token → Found (List (Node String))
  | 0, _ => ([.broken], none)
  | fuel + 1, ts =>
    match ts with
    | .entry :: rest =>
      match readOrEmpty rules fuel .block endsBlockItem rest with
      | (n, none) => ([n], none)
      | (n, some after) =>
        let (ns, last) := readItems rules fuel after
        (n :: ns, last)
    | .blockEnd :: rest => ([], some rest)
    | _ => ([.broken], none)

/-- Reads the items of a list that is not indented. -/
def readLoose (rules : Tag.Rules) : Nat → List Token → Found (List (Node String))
  | 0, _ => ([.broken], none)
  | fuel + 1, ts =>
    match ts with
    | [] => ([.broken], none)
    | .entry :: rest =>
      match readOrEmpty rules fuel .block endsLooseItem rest with
      | (n, none) => ([n], none)
      | (n, some after) =>
        let (ns, last) := readLoose rules fuel after
        (n :: ns, last)
    | ts => ([], some ts)

/-- Reads the value of an entry, which may be left out with its mark. -/
def readValue (rules : Tag.Rules) : Nat → Place → (Token → Bool) → List Token → Found (Node String)
  | 0, _, _, _ => (.broken, none)
  | _ + 1, _, _, [] => (.broken, none)
  | fuel + 1, place, ends, .value :: rest => readOrEmpty rules fuel place ends rest
  | _ + 1, _, _, ts => (.empty, some ts)

/-- Reads the entries of a mapping in a block. -/
def readEntries (rules : Tag.Rules) : Nat → List Token → Found (List (Node String × Node String))
  | 0, _ => ([(.broken, .broken)], none)
  | fuel + 1, ts =>
    match ts with
    | .key :: rest =>
      match readOrEmpty rules fuel .entry endsBlockEntry rest with
      | (k, none) => ([(k, .broken)], none)
      | (k, some afterKey) =>
        match readValue rules fuel .entry endsBlockEntry afterKey with
        | (n, none) => ([(k, n)], none)
        | (n, some after) =>
          let (es, last) := readEntries rules fuel after
          ((k, n) :: es, last)
    | .blockEnd :: rest => ([], some rest)
    | _ => ([(.broken, .broken)], none)

/-- Reads the entry of a mapping that stands alone in brackets. Without a key the next token is
passed over. -/
def readPair (rules : Tag.Rules) : Nat → List Token → Found (Node String × Node String)
  | 0, _ => ((.broken, .broken), none)
  | _ + 1, [] => ((.broken, .broken), none)
  | fuel + 1, t :: rest =>
    let (k, afterKey) :=
      if t = .value ∨ endsFlowItem t then (.empty, some rest) else read rules fuel .flow (t :: rest)
    match afterKey with
    | none => ((k, .broken), none)
    | some ts =>
      let (n, after) := readValue rules fuel .flow endsFlowItem ts
      ((k, n), after)

/-- Reads the items of a list in brackets. -/
def readFlowItems (rules : Tag.Rules) : Nat → Bool → List Token → Found (List (Node String))
  | 0, _, _ => ([.broken], none)
  | _ + 1, _, [] => ([.broken], none)
  | fuel + 1, first, t :: rest =>
    if t = .flowSequenceEnd then ([], some rest)
    else
      let start := if first then some (t :: rest) else if t = .comma then some rest else none
      match start with
      | none => ([.broken], none)
      | some (.flowSequenceEnd :: rest) => ([], some rest)
      | some (.key :: rest) =>
        match readPair rules fuel rest with
        | (e, none) => ([.map {} [e]], none)
        | (e, some after) =>
          let (ns, last) := readFlowItems rules fuel false after
          (.map {} [e] :: ns, last)
      | some ts =>
        match read rules fuel .flow ts with
        | (n, none) => ([n], none)
        | (n, some after) =>
          let (ns, last) := readFlowItems rules fuel false after
          (n :: ns, last)

/-- Reads the entries of a mapping in braces. -/
def readFlowEntries (rules : Tag.Rules) :
    Nat → Bool → List Token → Found (List (Node String × Node String))
  | 0, _, _ => ([(.broken, .broken)], none)
  | _ + 1, _, [] => ([(.broken, .broken)], none)
  | fuel + 1, first, t :: rest =>
    if t = .flowMappingEnd then ([], some rest)
    else
      let start := if first then some (t :: rest) else if t = .comma then some rest else none
      match start with
      | none => ([(.broken, .broken)], none)
      | some (.flowMappingEnd :: rest) => ([], some rest)
      | some (.key :: rest) =>
        match readOrEmpty rules fuel .flow (fun t => t = .value || endsFlowEntry t) rest with
        | (k, none) => ([(k, .broken)], none)
        | (k, some afterKey) =>
          match readValue rules fuel .flow endsFlowEntry afterKey with
          | (n, none) => ([(k, n)], none)
          | (n, some after) =>
            let (es, last) := readFlowEntries rules fuel false after
            ((k, n) :: es, last)
      | some ts =>
        match read rules fuel .flow ts with
        | (k, none) => ([(k, .broken)], none)
        | (k, some after) =>
          let (es, last) := readFlowEntries rules fuel false after
          ((k, .empty) :: es, last)

end

end Node

/-! ### Documents -/

/-- The first document of a text. -/
structure Document where
  /-- Its node; none if the text holds nothing. -/
  root : Option (Node String)
  /-- Whether nothing comes behind it. -/
  isLast : Bool

namespace Document

/-- The directives before a document. -/
structure Directives where
  hasVersion : Bool := false
  rules : Tag.Rules := []

/-- Reads directives. A version may be given once and must be known, and so may a handle. -/
def readDirectives (d : Directives) : List Token → Option (Directives × List Token)
  | .version major minor :: rest =>
    if d.hasVersion || major != 1 || (minor != 1 && minor != 2) then none
    else readDirectives { d with hasVersion := true } rest
  | .tagRule handle start :: rest =>
    if (d.rules.lookup handle).isSome then none
    else readDirectives { d with rules := d.rules ++ [(handle, start)] } rest
  | ts => some (d, ts)

/-- Whether the token begins something outside of the content of a document. -/
def endsContent : Token → Bool
  | .version .. | .tagRule .. | .documentStart | .documentEnd | .streamEnd => true
  | _ => false

/-- Whether nothing but the end of a document and of the text follows. -/
def isEnd : List Token → Bool
  | .documentEnd :: rest => isEnd rest
  | .streamEnd :: _ => true
  | _ => false

/-- A document with a node and the tokens behind it. -/
def ofFound (found : Node.Found (Node String)) : Document := ⟨some found.1, found.2.any isEnd⟩

/-- Reads the first document from tokens. -/
def ofTokens (ts : List Token) : Document :=
  let fuel := 4 * ts.length + 4
  match ts with
  | .streamStart :: .streamEnd :: _ => ⟨none, true⟩
  | .streamStart :: t :: rest =>
    let explicit := match t with
      | .version .. | .tagRule .. | .documentStart => true
      | _ => false
    if !explicit then ofFound (Node.read Tag.standardRules fuel .block (t :: rest))
    else match readDirectives {} (t :: rest) with
      | some (d, .documentStart :: content) =>
        ofFound (Node.readOrEmpty (d.rules ++ Tag.standardRules) fuel .block endsContent content)
      | _ => ⟨some .broken, false⟩
  | _ => ⟨some .broken, false⟩

end Document

end Yaml

end FlowGraph
