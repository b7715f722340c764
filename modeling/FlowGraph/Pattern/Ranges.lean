/-! # Ranges of characters

A class of characters as a list of ranges of code points. `CodeRanges.merged` is its normal form:
the ranges in increasing order, with a gap between any two.

Letter case is ignored range by range: `CodeRanges.foldCase` adds the capitals of the small letters
of a range, and only if it has none the small letters of its capitals. -/

namespace FlowGraph

/-- Ranges of code points, both ends included. -/
abbrev CodeRanges := List (Nat × Nat)

namespace CodeRanges

/-- Whether a character lies in one of the ranges. -/
def has (ranges : CodeRanges) (c : Char) : Bool :=
  ranges.any fun r => r.1 ≤ c.toNat && c.toNat ≤ r.2

/-- The largest code point. -/
def largest : Nat := 0x10FFFF

/-- What ranges in increasing order leave out, from a code point on. -/
def gaps (next : Nat) : CodeRanges → CodeRanges
  | [] => if next ≤ largest then [(next, largest)] else []
  | (lo, hi) :: rest =>
    if next < lo then (next, lo - 1) :: gaps (max next (hi + 1)) rest
    else gaps (max next (hi + 1)) rest

/-- Whether a range stands before another: by its first code point, then by its last. -/
def stands (a b : Nat × Nat) : Bool := a.1 < b.1 || (a.1 == b.1 && a.2 ≤ b.2)

/-- Adds a range after those that stand before it; these come last first. -/
def addLast (done : CodeRanges) (r : Nat × Nat) : CodeRanges :=
  match done with
  | [] => [r]
  | last :: before =>
    if r.1 ≤ last.2 + 1 then (last.1, max last.2 r.2) :: before else r :: last :: before

/-- The same code points in ranges that neither meet nor touch, in increasing order. -/
def merged (ranges : CodeRanges) : CodeRanges :=
  ((ranges.mergeSort stands).foldl addLast []).reverse

/-- The code points in none of the ranges. -/
def complement (ranges : CodeRanges) : CodeRanges := gaps 0 ranges.merged

/-- The part of a range between two letters, if there is one. -/
def within? (lo hi : Char) (r : Nat × Nat) : Option (Nat × Nat) :=
  let a := max r.1 lo.toNat
  let b := min r.2 hi.toNat
  if a ≤ b then some (a, b) else none

/-- The letters of a range in the other case: of its small letters, or else of its capitals. -/
def otherCase? (r : Nat × Nat) : Option (Nat × Nat) :=
  match within? 'a' 'z' r with
  | some (a, b) => some (a - 32, b - 32)
  | none => (within? 'A' 'Z' r).map fun (a, b) => (a + 32, b + 32)

/-- The ranges with the other case of their letters among the first 128 characters. -/
def foldCase (ranges : CodeRanges) : CodeRanges :=
  let rs := ranges.merged
  (rs ++ rs.filterMap otherCase?).merged

end CodeRanges

end FlowGraph
