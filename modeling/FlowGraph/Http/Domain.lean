import FlowGraph.Http.Domain.Direction
import FlowGraph.Http.Domain.Joining
import FlowGraph.Http.Domain.Label
import FlowGraph.Http.Domain.Mapping
import FlowGraph.Text.Bytes
import FlowGraph.Text.Normal

/-! # Domain names

A domain name in a URL is made of labels with dots between them. Its characters are read in one form,
and a label with characters beyond ASCII is written by its code, after the mark `xn--`. A label that
comes as a code must be the code of a label in that form.

A label does not begin with a mark that attaches to the character before it, joiners stand only
where they make a difference, and the labels of a name with letters from right to left are readable
in both directions. -/

namespace FlowGraph

namespace Domain

/-- The mark of a label that is written by its code. -/
def codeMark : List Char := "xn--".toList

/-- The longest code of a label that is read. -/
def codeLimit : Nat := 2000

/-- The longest label that is written by its code. -/
def labelLimit : Nat := 1000

/-- Characters that no name has in the end. -/
def isForbidden (c : Char) : Bool :=
  c.toNat ≤ 0x20 || c.toNat == 0x7F || "#/:<>?@[\\]^|%".toList.contains c

/-- Whether all characters are ASCII. -/
def isAscii (cs : List Char) : Bool := cs.all (·.toNat < 0x80)

/-- A name with its characters in one form. -/
def normal? (cs : List Char) : Option (List Char) := do
  let cs := Text.composed (← cs.mapM read?).flatten
  if cs.any isForbidden then none else some cs

/-- The label of a code: it has characters beyond ASCII, and all of it is in the one form. -/
def ofCode? (code : List Char) : Option (List Char) := do
  if codeLimit < code.length ∨ !isAscii code ∨ code.getLast? = some '-' then none
  let cs ← decodeLabel? code
  if isAscii cs ∨ !cs.all isFixed ∨ Text.composed cs != cs then none
  some cs

/-- A label, decoded if it is a code. -/
def label? (cs : List Char) : Option (List Char) :=
  match Text.dropStart? cs codeMark with
  | some code => ofCode? code
  | none => some cs

/-- Whether a label may stand in a name. -/
def isLabel (cs : List Char) : Bool :=
  isAscii cs ||
    (!cs.head?.any Text.isMark && Joining.areAllowed [] cs && cs.length ≤ labelLimit)

/-- Whether the labels make a name. -/
def areLabels (ls : List (List Char)) : Bool :=
  ls.all isLabel &&
    (!ls.any (·.any fun c => (Direction.ofChar c).isStrict) || ls.all Direction.isReadable)

/-- A label as it stands in a name. -/
def labelText (cs : List Char) : List Char :=
  if isAscii cs then cs else codeMark ++ encodeLabel cs

/-- The ASCII form of a name, given by its bytes. -/
def toAscii? (bs : List UInt8) : Option String := do
  let s ← Text.ofBytes? bs
  let ls ← (Text.splitAll '.' (← normal? s.toList)).mapM label?
  if areLabels ls then some (String.ofList (List.intercalate ['.'] (ls.map labelText))) else none

end Domain

end FlowGraph
