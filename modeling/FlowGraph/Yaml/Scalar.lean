import FlowGraph.Number.Radix
import FlowGraph.Yaml.Cursor

/-! # Scalars of YAML texts

A scalar is plain, quoted once or twice, or a block of lines. Inside plain and quoted scalars the
end of a line is a gap like any other (`Gap.fold`); a block keeps its lines, or folds them.

Every reader takes a bound on the characters it may read, and gives nothing for a text that breaks
the rules. -/

namespace FlowGraph

namespace Yaml

/-! ### Plain scalars -/

namespace Plain

/-- What ends a plain scalar inside brackets. -/
def flowMarks : List Char := [',', '[', ']', '{', '}']

/-- What may not follow a colon inside brackets. -/
def colonStops : List Char := [',', '?', '[', ']', '{', '}']

/-- Whether the character at the cursor ends a word. -/
def wordEnds (inFlow : Bool) (c : Cursor) (x : Char) : Bool :=
  isGap x || (x == ':' && c.endsAt 1) || (inFlow && flowMarks.contains x)

/-- Reads a word; what was read before comes in reverse. -/
def word (inFlow : Bool) : Nat → List Char → Cursor → Option (List Char × Cursor)
  | 0, _, _ => none
  | fuel + 1, read, c =>
    match c.rest with
    | [] => some (read, c)
    | x :: _ =>
      if isGap x then some (read, c)
      else if inFlow && x == ':' && (c.at? 1).any colonStops.contains then none
      else if wordEnds inFlow c x then some (read, c)
      else word inFlow fuel (x :: read) c.skip

/-- Reads words and gaps in turn. `gap` lies before the cursor and belongs to the scalar only if a
word follows; also tells whether a line has ended in the last gap. -/
def words (inFlow : Bool) (indent : Int) :
    Nat → Gap → List Char → Cursor → Option (List Char × Bool × Cursor)
  | 0, _, _, _ => none
  | fuel + 1, gap, read, c => do
    if c.atDocumentMark || c.has '#' then some (read, gap.isBroken, c)
    else
      let (found, after) ← word inFlow fuel [] c
      let joined := if found.isEmpty then read else found ++ gap.fold.reverse ++ read
      let before : Gap := if found.isEmpty then gap else {}
      match after.rest with
      | [] => some (joined, before.isBroken, after)
      | x :: _ =>
        if !isGap x then some (joined, before.isBroken, after)
        else
          let (next, c) ← Gap.read indent fuel {} after
          if !inFlow && c.column < indent then some (joined, next.isBroken, c)
          else words inFlow indent fuel next joined c

/-- Reads a plain scalar, which may go on in lines that begin right of `indent`. Also tells whether
a line has ended behind it. -/
def read (fuel : Nat) (inFlow : Bool) (indent : Int) (c : Cursor) :
    Option (String × Bool × Cursor) :=
  (words inFlow (indent + 1) fuel {} [] c).map fun (read, broken, after) =>
    (String.ofList read.reverse, broken, after)

end Plain

/-! ### Quoted scalars -/

namespace Quoted

/-- The characters that an escape stands for by its letter. -/
def letters : List (Char × Nat) := [
  ('0', 0x00), ('a', 0x07), ('b', 0x08), ('t', 0x09), ('\t', 0x09), ('n', 0x0A), ('v', 0x0B),
  ('f', 0x0C), ('r', 0x0D), ('e', 0x1B), (' ', 0x20), ('"', 0x22), ('/', 0x2F), ('\\', 0x5C),
  ('N', 0x85), ('_', 0xA0), ('L', 0x2028), ('P', 0x2029)]

/-- How many digits follow the letter of a numeric escape. -/
def digitCounts : List (Char × Nat) := [('x', 2), ('u', 4), ('U', 8)]

/-- The character of a number. -/
def charOf? (n : Nat) : Option Char := if n.isValidChar then some (Char.ofNat n) else none

/-- Reads an escape after its backslash. -/
def escape (c : Cursor) : Option (Char × Cursor) :=
  match c.rest with
  | [] => none
  | x :: _ =>
    match letters.lookup x with
    | some n => some (Char.ofNat n, c.skip)
    | none => do
      let count ← digitCounts.lookup x
      let digits := (c.rest.drop 1).take count
      if digits.length < count then none
      else
        let found ← charOf? (← ofRadix? 16 digits)
        some (found, c.skip (count + 1))

/-- How a word ends. -/
inductive WordEnd where
  | quote | gap | escapedBreak
deriving DecidableEq

/-- Reads up to a gap or the closing quote; what was read before comes in reverse. -/
def word (single : Bool) : Nat → List Char → Cursor → Option (List Char × WordEnd × Cursor)
  | 0, _, _ => none
  | fuel + 1, read, c =>
    match c.rest with
    | [] => some (read, .gap, c)
    | x :: _ =>
      if isGap x then some (read, .gap, c)
      else if single && x == '\'' && c.has '\'' 1 then word single fuel ('\'' :: read) (c.skip 2)
      else if x == (if single then '\'' else '"') then some (read, .quote, c.skip)
      else if !single && x == '\\' then
        if (c.at? 1).any isBreak then some (read, .escapedBreak, c.skip.nextLine)
        else do
          let (found, after) ← escape c.skip
          word single fuel (found :: read) after
      else word single fuel (x :: read) c.skip

/-- Reads words and gaps in turn up to the closing quote. -/
def words (single : Bool) : Nat → List Char → Cursor → Option (List Char × Cursor)
  | 0, _, _ => none
  | fuel + 1, read, c => do
    if c.atDocumentMark || c.rest.isEmpty then none
    else
      let (read, ending, c) ← word single fuel read c
      if ending = .quote then some (read, c)
      else
        let (gap, c) ← Gap.read 0 fuel { escaped := ending = .escapedBreak } c
        words single fuel (gap.fold.reverse ++ read) c

/-- Reads a quoted scalar at its opening quote. -/
def read (fuel : Nat) (single : Bool) (c : Cursor) : Option (String × Cursor) :=
  (words single fuel [] c.skip).map fun (read, after) => (String.ofList read.reverse, after)

end Quoted

/-! ### Block scalars -/

namespace Block

/-- What becomes of the ends of lines at the end of a block. -/
inductive Chomping where
  /-- They are dropped. -/
  | strip
  /-- One stays. -/
  | clip
  /-- They stay. -/
  | keep
deriving DecidableEq

/-- What stands behind the mark of a block. -/
structure Header where
  chomping : Chomping := .clip
  /-- By how many columns the block is indented, if that is given. -/
  increment : Option Nat := none

/-- The chomping of a character. -/
def chomping? (x : Char) : Option Chomping :=
  if x == '+' then some .keep else if x == '-' then some .strip else none

/-- Reads a chomping. -/
def readChomping (h : Header) (c : Cursor) : Header × Cursor :=
  match c.rest.head?.bind chomping? with
  | some chomping => ({ h with chomping }, c.skip)
  | none => (h, c)

/-- Reads an increment, which is not zero. -/
def readIncrement (h : Header) (c : Cursor) : Option (Header × Cursor) :=
  match c.rest with
  | x :: _ =>
    if !x.isDigit then some (h, c)
    else if x == '0' then none
    else some ({ h with increment := some (x.toNat - '0'.toNat) }, c.skip)
  | [] => some (h, c)

/-- Reads a header: a chomping and an increment in any order. -/
def header (c : Cursor) : Option (Header × Cursor) :=
  match c.rest.head?.bind chomping? with
  | some chomping => readIncrement { chomping } c.skip
  | none => (readIncrement {} c).map fun (h, after) =>
      if h.increment.isSome then readChomping h after else (h, after)

/-- Reads the spaces and the empty lines before a line. Without an `indent` spaces are read as far
as they go, and `widest` is the greatest column they lead to. -/
def emptyLines (indent : Option Nat) :
    Nat → Nat → List Char → Cursor → Option (Nat × List Char × Cursor)
  | 0, _, _, _ => none
  | fuel + 1, widest, breaks, c =>
    match c.rest with
    | [] => some (max widest c.column, breaks, c)
    | x :: _ =>
      let inside := indent.all fun n => c.column < n
      if x == ' ' && inside then emptyLines indent fuel widest breaks c.skip
      else if x == '\t' && inside then none
      else if isBreak x then
        emptyLines indent fuel (max widest c.column) (breaks ++ [normalBreak x]) c.nextLine
      else some (max widest c.column, breaks, c)

/-- What has been read of a block. -/
structure Lines where
  /-- The text of the lines, in reverse. -/
  read : List Char := []
  /-- The end of the last line. -/
  ending : List Char := []
  /-- The empty lines after it. -/
  empty : List Char
  /-- Whether the last line begins with a blank. -/
  startsBlank : Bool := false

/-- What joins the last line to the next one. A folded block joins lines by a space, unless one of
them begins with a blank. -/
def Lines.joint (literal : Bool) (b : Lines) (nextBlank : Bool) : List Char :=
  if !literal && b.ending == ['\n'] && !b.startsBlank && !nextBlank then
    if b.empty.isEmpty then [' '] else b.empty
  else b.ending ++ b.empty

/-- Reads the lines that begin at column `indent`. -/
def lines (literal : Bool) (indent : Nat) : Nat → Lines → Cursor → Option (Lines × Cursor)
  | 0, _, _ => none
  | fuel + 1, b, c =>
    match c.rest with
    | [] => some (b, c)
    | x :: _ =>
      if c.column != indent then some (b, c)
      else do
        let (line, after) := c.takeWhile fun x => !isBreak x
        let ending := (after.rest.head?.map normalBreak).toList
        let (_, empty, c) ← emptyLines (some indent) fuel 0 [] after.nextLine
        let blank := isSpaceChar x
        lines literal indent fuel
          ⟨line.reverse ++ (b.joint literal blank).reverse ++ b.read, ending, empty, blank⟩ c

/-- The text of a block. -/
def text (chomping : Chomping) (b : Lines) : String :=
  String.ofList (b.read.reverse ++ match chomping with
    | .strip => []
    | .clip => b.ending
    | .keep => b.ending ++ b.empty)

/-- Reads a block scalar at its mark, inside of a collection that begins at column `outer`. -/
def read (fuel : Nat) (literal : Bool) (outer : Int) (c : Cursor) : Option (String × Cursor) := do
  let (h, c) ← header c.skip
  let c ← c.finishLine
  let given := h.increment.map fun n => (max outer 0).toNat + n
  let (widest, empty, c) ← emptyLines given fuel 0 [] c
  let indent := given.getD (max widest (max (outer + 1).toNat 1))
  let (b, c) ← lines literal indent fuel { empty } c
  some (text h.chomping b, c)

end Block

end Yaml

end FlowGraph
