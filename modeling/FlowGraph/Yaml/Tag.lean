import FlowGraph.Text.Bytes

/-! # Tags of YAML nodes

A tag names the type of a node. It is written with a handle, which stands for the start of the tag
by a rule of the document (`Tag.ofParts?`), or as a whole. Percent codes in it stand for bytes, which
need not be a text; a tag and each of its two parts end before the first zero byte.

A few types are known in every document; of the others a reader only asks whether they belong to the
document, which a mark at their start says. -/

namespace FlowGraph

namespace Yaml

/-- What a tag says of its node. -/
inductive Tag where
  | bool | int | float | null
  /-- A type of the document. -/
  | own
  /-- A type of the document whose name is not a text. -/
  | garbled
  /-- Another type. -/
  | foreign
deriving DecidableEq

namespace Tag

/-- The bytes before the first zero. -/
def content (bs : List UInt8) : List UInt8 := bs.takeWhile (· != 0)

/-- The start of the tags that every document knows. -/
def coreStart : String := "tag:yaml.org,2002:"

/-- The type that a whole tag names. -/
def ofBytes (bs : List UInt8) : Tag :=
  match Text.ofBytes? bs with
  | some name =>
    if name = coreStart ++ "bool" then bool
    else if name = coreStart ++ "int" then int
    else if name = coreStart ++ "float" then float
    else if name = coreStart ++ "null" then null
    else if name.startsWith "!" then own
    else foreign
  | none => if bs.head? = some '!'.toUInt8 then garbled else foreign

/-- The starts of tags by their handles. -/
abbrev Rules := List (String × List UInt8)

/-- The handles of every document. -/
def standardRules : Rules := [("!", Text.bytes "!"), ("!!", Text.bytes coreStart)]

/-- The tag of a handle and what follows it; nothing if no rule has the handle. Without a handle the
tag is written as a whole. -/
def ofParts? (rules : Rules) (handle : String) (suffix : List UInt8) : Option Tag :=
  if handle.isEmpty then some (ofBytes (content suffix))
  else (rules.lookup handle).map fun start => ofBytes (content start ++ content suffix)

end Tag

end Yaml

end FlowGraph
