import FlowGraph.Pattern.Ranges

/-! # Patterns

Regular expressions over characters, with assertions about the place between two characters. -/

namespace FlowGraph

namespace Pattern

/-- A place between two characters. -/
structure Place where
  before : Option Char
  after : Option Char

/-- What a pattern can say about a place. -/
inductive Assertion where
  | start | finish
  | lineStart | lineEnd
  /-- Lines that may also end in a carriage return, alone or before a line feed. -/
  | anyLineStart | anyLineEnd
  | wordBoundary | noWordBoundary | wordStart | wordEnd | noWordBefore | noWordAfter
deriving DecidableEq

/-- A letter, a digit or an underscore among the first 128 characters. -/
def isWordChar (c : Char) : Bool := c.isAlphanum || c == '_'

/-- Whether there is a character and it is a word character. -/
def isWord (o : Option Char) : Bool := o.any isWordChar

/-- Whether an assertion holds at a place. -/
def Assertion.holds (a : Assertion) (p : Place) : Bool :=
  match a with
  | start => p.before.isNone
  | finish => p.after.isNone
  | lineStart => p.before.isNone || p.before == some '\n'
  | lineEnd => p.after.isNone || p.after == some '\n'
  | anyLineStart =>
    p.before.isNone || p.before == some '\n' || (p.before == some '\r' && p.after != some '\n')
  | anyLineEnd =>
    p.after.isNone || p.after == some '\r' || (p.after == some '\n' && p.before != some '\r')
  | wordBoundary => isWord p.before != isWord p.after
  | noWordBoundary => isWord p.before == isWord p.after
  | wordStart => !isWord p.before && isWord p.after
  | wordEnd => isWord p.before && !isWord p.after
  | noWordBefore => !isWord p.before
  | noWordAfter => !isWord p.after

end Pattern

/-- A regular expression. -/
inductive Pattern where
  | empty
  | chars (ranges : CodeRanges)
  | assert (a : Pattern.Assertion)
  | seq (first second : Pattern)
  | alt (left right : Pattern)
  | rep (least : Nat) (most : Option Nat) (body : Pattern)
deriving DecidableEq

end FlowGraph
