import FlowGraph.Number.Radix
import FlowGraph.Text.Blank

/-! # Tables by code point

Properties of characters that hold for runs of code points. A table names the code points at which
the property changes, in increasing order, and a look-up finds the place of a code point among
them.

* `CodeSet` is a set of characters, `CodeTable` gives each character a value.
* Both are written as gaps: each boundary by its distance from the one before it, in base 16. -/

namespace FlowGraph

namespace Text

/-! ### Places -/

/-- The place of `n` in the part from `lo` up to `hi` of a sorted array. -/
def placeBetween (xs : Array Nat) (n lo hi : Nat) : Nat :=
  if lo < hi then
    let mid := (lo + hi) / 2
    if xs.getD mid 0 ≤ n then placeBetween xs n (mid + 1) hi else placeBetween xs n lo mid
  else lo
termination_by hi - lo

/-- How many entries of a sorted array are at most `n`. -/
def place (xs : Array Nat) (n : Nat) : Nat := placeBetween xs n 0 xs.size

/-! ### Words of a table -/

/-- A number in base 16; characters that are no digits count as zero. -/
def hexNumber (cs : List Char) : Nat :=
  cs.foldl (fun n c => 16 * n + (hexDigit? c).getD 0) 0

/-- The words of a line of a table, with blanks between. -/
def lineWords (line : String) : List (List Char) :=
  (splitAll ' ' line.toList).filter (!·.isEmpty)

/-- The words of a table. -/
def words (lines : List String) : Array (List Char) := (lines.flatMap lineWords).toArray

/-- Each number added to all that stand before it. -/
def runningSums (ns : Array Nat) : Array Nat :=
  (ns.foldl (fun (acc : Nat × Array Nat) n => (acc.1 + n, acc.2.push (acc.1 + n))) (0, #[])).2

end Text

/-! ### Sets -/

/-- A set of characters, by the code points at which its runs begin and end in turn. -/
structure CodeSet where
  bounds : Array Nat

/-- The set of a table of gaps. -/
def CodeSet.ofGaps (lines : List String) : CodeSet :=
  ⟨Text.runningSums ((Text.words lines).map Text.hexNumber)⟩

/-- Whether a character is in the set. -/
def CodeSet.has (s : CodeSet) (c : Char) : Bool := Text.place s.bounds c.toNat % 2 == 1

/-! ### Values -/

/-- A value for each run of code points, by the code point at which the run begins. -/
structure CodeTable (α : Type) where
  starts : Array Nat
  values : Array α

/-- The table of gaps, each with the word for a value after it. -/
def CodeTable.ofGaps {α : Type} (value : List Char → α) (lines : List String) : CodeTable α :=
  let ws := Text.words lines
  let runs := Array.range (ws.size / 2)
  ⟨Text.runningSums (runs.map fun i => Text.hexNumber (ws.getD (2 * i) [])),
    runs.map fun i => value (ws.getD (2 * i + 1) [])⟩

/-- The start and the value of the run of a code point; those before the first run have none. -/
def CodeTable.run? {α : Type} (t : CodeTable α) (n : Nat) : Option (Nat × α) :=
  match Text.place t.starts n with
  | 0 => none
  | i + 1 => do some (← t.starts[i]?, ← t.values[i]?)

/-- The value of a code point. -/
def CodeTable.value? {α : Type} (t : CodeTable α) (n : Nat) : Option α := (t.run? n).map (·.2)

end FlowGraph
