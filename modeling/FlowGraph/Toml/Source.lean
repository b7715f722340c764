import FlowGraph.Toml.Scalar

/-! # TOML texts, read

`Toml.parse` reads a text as a document. Keys are names with dots between them; a section goes from
its name in brackets to the next one. -/

namespace FlowGraph

namespace Toml

/-- Arrays and tables are not nested as deep as this, nor keys as long. -/
def depthLimit : Nat := 80

/-! ### Keys -/

/-- A character of a name without quotes. -/
def isNameChar (c : Char) : Bool := c.isAlphanum || c == '_' || c == '-'

/-- A name. -/
def name? (cs : List Char) : Option (Reading String) :=
  match line? cs with
  | some (name, rest) => some (String.ofList name, rest)
  | none =>
    let name := cs.takeWhile isNameChar
    if name.isEmpty then none else some (String.ofList name, cs.dropWhile isNameChar)

/-- Names with dots between them, blanks around each. -/
def names? : Nat → List Char → Option (Reading (List String))
  | 0, _ => none
  | fuel + 1, cs => do
    let (name, rest) ← name? (skipSpace cs)
    match skipSpace rest with
    | '.' :: more =>
      let (names, last) ← names? fuel more
      some (name :: names, last)
    | last => some ([name], last)

/-- A key: the names on the way and the last name. -/
def key? (cs : List Char) : Option (Reading (List String × String)) := do
  let (names, rest) ← names? (cs.length + 1) cs
  let name ← names.getLast?
  if names.length < depthLimit then some ((names.dropLast, name), rest) else none

/-! ### Values -/

/-- What follows blanks, comments and ends of lines. -/
def skipComments : Nat → List Char → List Char
  | 0, cs => cs
  | fuel + 1, cs =>
    let rest := skipComment (skipSpace cs)
    match lineBreak? rest with
    | some after => skipComments fuel after
    | none => rest

mutual

/-- A value inside `level` arrays and tables. -/
def valueAt : Nat → Nat → List Char → Option (Reading Toml)
  | 0, _, _ => none
  | _ + 1, _, [] => none
  | fuel + 1, level, c :: rest =>
    if c = '"' ∨ c = '\'' then
      (text? (c :: rest)).map fun (s, last) => (.text (String.ofList s), last)
    else if c = '[' then
      if level + 1 < depthLimit then
        (itemsAt fuel (level + 1) rest).map fun (items, last) => (.array items, last)
      else none
    else if c = '{' then
      if level + 1 < depthLimit then
        match skipSpace rest with
        | '}' :: last => some (.table .inline [], last)
        | inner => do
          let (found, last) ← entriesAt fuel (level + 1) inner
          let v ← inlineTable found
          some (v, last)
      else none
    else if c = 't' ∨ c = 'f' then boolean? (c :: rest)
    else number? (c :: rest)

/-- The items of an array up to its end. A comma may follow the last one. -/
def itemsAt : Nat → Nat → List Char → Option (Reading (List Toml))
  | 0, _, _ => none
  | fuel + 1, level, cs =>
    match skipComments cs.length cs with
    | ']' :: last => some ([], last)
    | inner => do
      let (v, rest) ← valueAt fuel level inner
      match skipComments rest.length rest with
      | ']' :: last => some ([v], last)
      | ',' :: more =>
        let (vs, last) ← itemsAt fuel level more
        some (v :: vs, last)
      | _ => none

/-- The entries of a table up to its end, at least one. -/
def entriesAt : Nat → Nat → List Char → Option (Reading (List Entry))
  | 0, _, _ => none
  | fuel + 1, level, cs => do
    let ((path, name), rest) ← key? cs
    let (value, rest) ← valueAt fuel level (skipSpace (← mark? '=' rest))
    match skipSpace rest with
    | '}' :: last => some ([⟨path, name, value⟩], last)
    | ',' :: more =>
      let (es, last) ← entriesAt fuel level more
      some (⟨path, name, value⟩ :: es, last)
    | _ => none

end

/-! ### Lines -/

/-- What follows the rest of a line that holds nothing more. -/
def afterLine? (cs : List Char) : Option (List Char) :=
  match skipComment (skipSpace cs) with
  | [] => some []
  | rest => lineBreak? rest

/-- An entry on a line of its own. -/
def entry? (cs : List Char) : Option (Reading Entry) := do
  let ((path, name), rest) ← key? cs
  let inner := skipSpace (← mark? '=' rest)
  let (value, rest) ← valueAt (2 * inner.length + 2) 0 inner
  some (⟨path, name, value⟩, ← afterLine? rest)

/-- The name of a section on a line of its own, after its opening bracket. -/
def header? (cs : List Char) : Option (Reading Header) :=
  match cs with
  | '[' :: inner => do
    let ((path, name), rest) ← key? inner
    some (.element path name, ← afterLine? (← mark? ']' (← mark? ']' rest)))
  | inner => do
    let ((path, name), rest) ← key? inner
    some (.table path name, ← afterLine? (← mark? ']' rest))

/-- The sections of a text, in reverse. The section at the front of the list is being read. -/
def sectionsAt : Nat → Section → List Section → List Char → Option (List Section)
  | 0, _, _, _ => none
  | fuel + 1, current, earlier, cs =>
    match skipComments cs.length cs with
    | [] => some (current :: earlier)
    | '[' :: inner => do
      let (header, rest) ← header? inner
      sectionsAt fuel ⟨some header, []⟩ (current :: earlier) rest
    | line => do
      let (e, rest) ← entry? line
      sectionsAt fuel { current with entries := e :: current.entries } earlier rest

/-- The section with its entries in order. -/
def Section.inOrder (s : Section) : Section := { s with entries := s.entries.reverse }

/-- A mark of the byte order at the front of a text is left out. -/
def withoutMark (cs : List Char) : List Char :=
  if cs.head? = some (Char.ofNat 0xFEFF) then cs.drop 1 else cs

/-- The document of a text. -/
def parse (text : String) : Option Toml := do
  let cs := withoutMark text.toList
  let sections ← sectionsAt (cs.length + 1) ⟨none, []⟩ [] cs
  ofSections (sections.map Section.inOrder).reverse

end Toml

end FlowGraph
