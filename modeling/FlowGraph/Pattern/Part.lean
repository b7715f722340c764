import FlowGraph.Pattern.Basic

/-! # Parts of a pattern

A pattern under construction together with its measures: how deep its parts are nested, how large
it is with its repetitions written out, and whether it may match the empty text. A part is written
out as states, one for each character, class, assertion and end of a group, and one or more for each
choice.

A pattern is accepted only if it `fits`: nested no deeper than `nestLimit` and no larger than
`sizeLimit`. -/

namespace FlowGraph

namespace Pattern

/-! ### Limits -/

/-- How deep the parts of a pattern, and groups while they are read, may be nested. -/
def nestLimit : Nat := 50

/-- The largest size of a pattern with its repetitions written out. -/
def sizeLimit : Nat := 10 * Nat.pow 2 20

/-- The size of a state. -/
def stateSize : Nat := 32

/-- The size of a state that goes on in some number of ways. -/
def choiceSize (ways : Nat) : Nat := stateSize + 4 * ways

/-- The size of one range of a class. -/
def rangeSize : Nat := 8

/-- What a group takes besides its two states. -/
def groupSize (name : List Char) : Nat := 32 + (String.ofList name).utf8ByteSize

/-! ### Construction -/

/-- A pattern and its measures. -/
structure Part where
  pattern : Pattern
  /-- How deep its parts are nested. -/
  height : Nat
  /-- Its size with its repetitions written out. -/
  size : Nat
  /-- Whether it may match the empty text at some place. -/
  mayBeEmpty : Bool

namespace Part

/-- The part that matches the empty text. -/
def empty : Part := ⟨.empty, 0, stateSize, true⟩

/-- One character. -/
def char (c : Char) : Part := ⟨.chars [(c.toNat, c.toNat)], 0, stateSize, false⟩

/-- A class of characters. -/
def ranges (r : CodeRanges) : Part := ⟨.chars r, 0, stateSize + rangeSize * r.length, false⟩

/-- An assertion. -/
def assertion (a : Assertion) : Part := ⟨.assert a, 0, stateSize, true⟩

/-- A part between the two ends of a group. -/
def group (p : Part) : Part := { p with height := p.height + 1, size := p.size + 2 * stateSize }

/-- The size of a repetition written out. -/
def repeatedSize (least : Nat) (most : Option Nat) (p : Part) : Nat :=
  match most with
  | none =>
    if least = 0 then
      if p.mayBeEmpty then p.size + 2 * choiceSize 2 + stateSize else p.size + choiceSize 2
    else least * p.size + choiceSize 2
  | some most =>
    if least = 0 ∧ most = 1 then p.size + choiceSize 2 + stateSize
    else if least = most then least * p.size
    else
      (if least = 0 then stateSize else least * p.size) + stateSize +
        (most - least) * (p.size + choiceSize 2)

/-- A repetition. -/
def repeated (least : Nat) (most : Option Nat) (p : Part) : Part :=
  if most = some 0 then empty
  else if least = 1 ∧ most = some 1 then p
  else
    { pattern := .rep least most p.pattern
      height := p.height + 1
      size := repeatedSize least most p
      mayBeEmpty := least == 0 || p.mayBeEmpty }

/-- How deep the parts below a part with these parts are nested. -/
def heightOver (parts : List Part) : Nat := parts.foldl (fun h p => max h (p.height + 1)) 0

/-- The size of parts together. -/
def sizeOver (parts : List Part) : Nat := parts.foldl (fun n p => n + p.size) 0

/-- Parts one after another. -/
def inSequence : List Part → Part
  | [] => empty
  | [p] => p
  | parts =>
    { pattern := parts.foldr (fun p after => if after = .empty then p.pattern
        else .seq p.pattern after) .empty
      height := heightOver parts
      size := sizeOver parts
      mayBeEmpty := parts.all (·.mayBeEmpty) }

/-- A choice among alternatives: the first and those after it. -/
def choice (first : Part) : List Part → Part
  | [] => first
  | others =>
    { pattern := others.foldl (fun p q => .alt p q.pattern) first.pattern
      height := heightOver (first :: others)
      size := sizeOver (first :: others) + choiceSize (others.length + 1) + stateSize
      mayBeEmpty := (first :: others).any (·.mayBeEmpty) }

/-- Whether a whole pattern with the given groups keeps within the limits. -/
def fits (p : Part) (groups : List (List Char)) : Bool :=
  p.height ≤ nestLimit &&
    groups.foldl (fun n name => n + groupSize name) (p.group.size + stateSize + groupSize [])
      ≤ sizeLimit

end Part

end Pattern

end FlowGraph
