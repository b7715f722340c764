import FlowGraph.Text.Blank

/-! # A cursor in a YAML text

The scanner of YAML looks at the text through a cursor, which knows its place: how many bytes lie
before it, its line and its column. Lines end in a line feed, a carriage return, both, or one of
three further characters. -/

namespace FlowGraph

namespace Yaml

/-! ### Characters -/

/-- A space or a tab. -/
def isSpaceChar (c : Char) : Bool := c == ' ' || c == '\t'

/-- A character that ends a line. -/
def isBreak (c : Char) : Bool :=
  c == '\n' || c == '\r' || c.toNat == 0x85 || c.toNat == 0x2028 || c.toNat == 0x2029

/-- A space, a tab or the end of a line. -/
def isGap (c : Char) : Bool := isSpaceChar c || isBreak c

/-- A character of an anchor or of the name of a directive. -/
def isWordChar (c : Char) : Bool := c.isAlphanum || c == '_' || c == '-'

/-- A character that a text may hold. -/
def isAllowed (c : Char) : Bool :=
  let n := c.toNat
  n == 0x09 || n == 0x0A || n == 0x0D || (0x20 ≤ n && n ≤ 0x7E) || n == 0x85 ||
    (0xA0 ≤ n && n ≤ 0xFFFD) || 0x10000 ≤ n

/-- The mark of the order of bytes. At the start of a line it means nothing. -/
def orderMark : Char := Char.ofNat 0xFEFF

/-- What the end of a line counts as. -/
def normalBreak (c : Char) : Char := if c.toNat == 0x2028 || c.toNat == 0x2029 then c else '\n'

/-! ### The cursor -/

/-- A place in a text. -/
structure Cursor where
  rest : List Char
  /-- How many bytes lie before. -/
  index : Nat := 0
  line : Nat := 0
  column : Nat := 0

namespace Cursor

/-- The character a few places further on. -/
def at? (c : Cursor) (offset : Nat) : Option Char := c.rest[offset]?

/-- Whether a certain character stands a few places further on. -/
def has (c : Cursor) (expected : Char) (offset : Nat := 0) : Bool := c.at? offset == some expected

/-- Whether a gap or the end of the text is a few places further on. -/
def endsAt (c : Cursor) (offset : Nat := 0) : Bool := (c.at? offset).all isGap

/-- How many bytes the first characters of a list take. -/
def widthOf (count : Nat) (cs : List Char) : Nat :=
  (cs.take count).foldl (fun n c => n + c.utf8Size) 0

/-- Goes on by a number of characters of the line. -/
def skip (c : Cursor) (count : Nat := 1) : Cursor := { c with
  rest := c.rest.drop count
  index := c.index + widthOf count c.rest
  column := c.column + count }

/-- Goes to the next line. -/
def nextLine (c : Cursor) : Cursor :=
  match c.rest with
  | '\r' :: '\n' :: rest => ⟨rest, c.index + 2, c.line + 1, 0⟩
  | x :: rest => ⟨rest, c.index + x.utf8Size, c.line + 1, 0⟩
  | [] => c

/-- Counts a new line, unless the cursor stands at the start of one. -/
def startLine (c : Cursor) : Cursor :=
  if c.column = 0 then c else { c with line := c.line + 1, column := 0 }

/-- Goes past a mark of the order of bytes at the start of a line. -/
def skipOrderMark (c : Cursor) : Cursor := if c.column == 0 && c.has orderMark then c.skip else c

/-- Takes characters of the line as long as they fulfil a condition. -/
def takeWhile (c : Cursor) (p : Char → Bool) : List Char × Cursor :=
  let taken := c.rest.takeWhile p
  (taken, c.skip taken.length)

/-- Goes on as long as characters of the line fulfil a condition. -/
def skipWhile (c : Cursor) (p : Char → Bool) : Cursor := (c.takeWhile p).2

/-- Goes past a comment, if there is one. -/
def skipComment (c : Cursor) : Cursor := if c.has '#' then c.skipWhile fun x => !isBreak x else c

/-- Goes to the next line past blanks and a comment, unless something else is there. -/
def finishLine (c : Cursor) : Option Cursor :=
  let c := (c.skipWhile isSpaceChar).skipComment
  match c.rest with
  | [] => some c
  | x :: _ => if isBreak x then some c.nextLine else none

/-- Whether a mark of three characters stands alone at the start of a line. -/
def hasMark (c : Cursor) (mark : Char) : Bool :=
  c.column == 0 && c.has mark && c.has mark 1 && c.has mark 2 && c.endsAt 3

/-- Whether a document starts or ends here. -/
def atDocumentMark (c : Cursor) : Bool := c.hasMark '-' || c.hasMark '.'

end Cursor

/-! ### Gaps -/

/-- What lies between two words: the blanks of the first line and the ends of lines. -/
structure Gap where
  blanks : List Char := []
  breaks : List Char := []
  /-- Whether an escaped end of line stands before. -/
  escaped : Bool := false

namespace Gap

/-- Whether later lines have begun. -/
def isBroken (g : Gap) : Bool := g.escaped || !g.breaks.isEmpty

/-- What a gap counts as inside of a scalar: the first end of a line is a space, or nothing if
others follow. -/
def fold (g : Gap) : List Char :=
  if g.escaped then g.breaks
  else match g.breaks with
    | [] => g.blanks
    | ['\n'] => [' ']
    | '\n' :: more => more
    | others => others

/-- Reads on in a gap. Blanks in later lines have no meaning, but tabs left of column `indent` are
not allowed there. -/
def read (indent : Int) : Nat → Gap → Cursor → Option (Gap × Cursor)
  | 0, _, _ => none
  | fuel + 1, g, c =>
    match c.rest with
    | [] => some (g, c)
    | x :: _ =>
      if isBreak x then
        read indent fuel { g with breaks := g.breaks ++ [normalBreak x] } c.nextLine
      else if !isSpaceChar x then some (g, c)
      else if !g.isBroken then read indent fuel { g with blanks := g.blanks ++ [x] } c.skip
      else if x == '\t' && c.column < indent then none
      else read indent fuel g c.skip

end Gap

end Yaml

end FlowGraph
