import FlowGraph.Yaml.Scalar
import FlowGraph.Yaml.Tag

/-! # Tokens of YAML texts

`Token.scan` cuts a text into tokens. Indentation becomes tokens of its own: a block begins where a
column lies right of those before it, and ends where a line begins left of its column. A key shows
as one only by the colon behind it; so a scanner remembers where a key may have begun, and puts the
marks of a key and of a block before the tokens that turn out to belong to it. A key ends in the line
where it begins, within 1024 bytes.

Tokens are handed out as soon as no mark can come before them. Where the text breaks the rules, they
stop. A text is read in pieces, and the tokens also stop before the first piece with a character that
no text may hold. -/

namespace FlowGraph

namespace Yaml

/-- A token. -/
inductive Token where
  | streamStart | streamEnd
  | version (major minor : Nat)
  | tagRule (handle : String) (start : List UInt8)
  | documentStart | documentEnd
  | blockSequenceStart | blockMappingStart | blockEnd
  | flowSequenceStart | flowSequenceEnd | flowMappingStart | flowMappingEnd
  | entry | comma | key | value
  | alias (name : String)
  | anchor (name : String)
  | tag (handle : String) (suffix : List UInt8)
  | scalar (text : String) (plain : Bool)
deriving DecidableEq

/-! ### Anchors, tags and directives -/

namespace Token

/-- What may follow an anchor, besides gaps. -/
def anchorStops : List Char := ['?', ':', ',', ']', '}', '%', '@', Char.ofNat 0x60]

/-- Reads the name of an anchor or of an alias behind its mark. -/
def readName (c : Cursor) : Option (String × Cursor) :=
  let (name, after) := c.skip.takeWhile isWordChar
  if name.isEmpty then none
  else if after.endsAt || after.rest.head?.any anchorStops.contains then
    some (String.ofList name, after)
  else none

/-- A character of a tag; inside of angle brackets a few more are allowed. -/
def isTagChar (verbatim : Bool) (c : Char) : Bool :=
  isWordChar c || ";/?:@&=+$.%!~*'()".toList.contains c || (verbatim && ",[]".toList.contains c)

/-- How many bytes belong to a character that begins with a byte. -/
def codeWidth (first : Nat) : Nat :=
  if first < 0x80 then 1
  else if first / 0x20 = 6 then 2
  else if first / 0x10 = 0xE then 3
  else if first / 8 = 0x1E then 4
  else 0

/-- Reads bytes in percent codes. -/
def codes : Nat → Cursor → Option (List Nat × Cursor)
  | 0, c => some ([], c)
  | count + 1, c =>
    match c.rest with
    | '%' :: a :: b :: _ => do
      let byte ← ofRadix? 16 [a, b]
      let (bytes, after) ← codes count (c.skip 3)
      some (byte :: bytes, after)
    | _ => none

/-- Reads the bytes of a character in percent codes: the first says how many there are, and the
others are such as may follow it. -/
def codedBytes (c : Cursor) : Option (List UInt8 × Cursor) := do
  let (first, _) ← codes 1 c
  let width := codeWidth (first.headD 0)
  let (bytes, after) ← codes width c
  if width = 0 || !(bytes.drop 1).all fun b => b / 0x40 == 2 then none
  else some (bytes.map UInt8.ofNat, after)

/-- Reads the bytes of a tag; what was read before comes in reverse. -/
def readTagBytes (verbatim : Bool) : Nat → List UInt8 → Cursor → Option (List UInt8 × Cursor)
  | 0, _, _ => none
  | fuel + 1, read, c =>
    match c.rest with
    | [] => some (read.reverse, c)
    | x :: _ =>
      if !isTagChar verbatim x then some (read.reverse, c)
      else if x == '%' then do
        let (found, after) ← codedBytes c
        readTagBytes verbatim fuel (found.reverse ++ read) after
      else readTagBytes verbatim fuel (x.toUInt8 :: read) c.skip

/-- Reads a tag between angle brackets. -/
def readVerbatim (fuel : Nat) (c : Cursor) : Option (Token × Cursor) := do
  let (bytes, after) ← readTagBytes true fuel [] (c.skip 2)
  if bytes.isEmpty || !after.has '>' then none else some (.tag "" bytes, after.skip)

/-- Reads a tag with a handle, or one without that begins with the same mark. The mark alone is a
whole tag. -/
def readShort (fuel : Nat) (c : Cursor) : Option (Token × Cursor) := do
  let (name, after) := c.skip.takeWhile isWordChar
  if after.has '!' then
    let (bytes, last) ← readTagBytes false fuel [] after.skip
    if bytes.isEmpty then none
    else some (.tag (String.ofList ('!' :: name ++ ['!'])) bytes, last)
  else
    let (bytes, last) ← readTagBytes false fuel (name.reverse.map Char.toUInt8) after
    some (if (Tag.content bytes).isEmpty then .tag "" (Text.bytes "!") else .tag "!" bytes, last)

/-- Reads a tag, which ends at a gap or, between brackets, at a comma. -/
def readTag (fuel : Nat) (inFlow : Bool) (c : Cursor) : Option (Token × Cursor) := do
  let (token, after) ← if c.has '<' 1 then readVerbatim fuel c else readShort fuel c
  if after.endsAt || (inFlow && after.has ',') then some (token, after) else none

/-- Reads a number of a version. -/
def readVersionNumber (c : Cursor) : Option (Nat × Cursor) :=
  let (digits, after) := c.takeWhile Char.isDigit
  if digits.isEmpty || digits.length > 9 then none
  else (ofRadix? 10 digits).map fun n => (n, after)

/-- Reads the version of a directive. -/
def readVersion (c : Cursor) : Option (Token × Cursor) := do
  let (major, c) ← readVersionNumber (c.skipWhile isSpaceChar)
  if !c.has '.' then none
  else
    let (minor, c) ← readVersionNumber c.skip
    some (.version major minor, c)

/-- Reads the handle and the start of tags of a directive. -/
def readTagRule (fuel : Nat) (c : Cursor) : Option (Token × Cursor) := do
  let c := c.skipWhile isSpaceChar
  if !c.has '!' then none
  else
    let (name, c) := c.skip.takeWhile isWordChar
    let closed := c.has '!'
    if !closed && !name.isEmpty then none
    else
      let c := if closed then c.skip else c
      if !c.rest.head?.any isSpaceChar then none
      else
        let (start, c) ← readTagBytes true fuel [] (c.skipWhile isSpaceChar)
        if start.isEmpty || !c.endsAt then none
        else
          let handle := '!' :: name ++ (if closed then ['!'] else [])
          some (.tagRule (String.ofList handle) start, c)

/-- Reads a directive. -/
def readDirective (fuel : Nat) (c : Cursor) : Option (Token × Cursor) := do
  let (name, c) := c.skip.takeWhile isWordChar
  let name := String.ofList name
  if name.isEmpty || !c.endsAt then none
  else
    let (token, c) ←
      if name = "YAML" then readVersion c else if name = "TAG" then readTagRule fuel c else none
    let c ← c.finishLine
    some (token, c)

end Token

/-! ### The scanner -/

/-- A place where a key may have begun. -/
structure KeyStart where
  /-- Whether nothing but a key can stand there. -/
  required : Bool
  /-- The number of the token that begins there. -/
  number : Nat
  index : Nat
  line : Nat
  column : Nat

/-- The state of a scanner. -/
structure Scanner where
  cursor : Cursor
  /-- Whether the text goes on behind what can be read of it. -/
  isCut : Bool := false
  /-- How many brackets are open. -/
  flowLevel : Nat := 0
  /-- The column of the innermost block. -/
  indent : Int := -1
  /-- The columns of the blocks around it. -/
  outer : List Int := []
  /-- Whether a key may begin at the cursor. -/
  keyAllowed : Bool := true
  /-- Where a key may have begun, for every open bracket and for the block around them. -/
  keys : List (Option KeyStart) := [none]
  /-- The tokens that are not handed out yet. -/
  queue : List Token := []
  /-- How many tokens are handed out. -/
  handedOut : Nat := 0

namespace Scanner

/-- Whether brackets are open. -/
def inFlow (s : Scanner) : Bool := s.flowLevel != 0

/-- Adds a token. -/
def push (s : Scanner) (t : Token) : Scanner := { s with queue := s.queue ++ [t] }

/-- Puts a token before the one of a number. -/
def pushAt (s : Scanner) (number : Nat) (t : Token) : Scanner :=
  { s with queue := s.queue.insertIdx (number - s.handedOut) t }

/-- Moves the cursor. -/
def goTo (s : Scanner) (c : Cursor) : Scanner := { s with cursor := c }

/-- Says whether a key may begin at the cursor. -/
def allowKey (s : Scanner) (allowed : Bool) : Scanner := { s with keyAllowed := allowed }

/-! Keys. -/

/-- Whether a key that begins there may still come to its colon. -/
def KeyStart.isOpen (k : KeyStart) (c : Cursor) : Bool :=
  k.line == c.line && c.index ≤ k.index + 1024

/-- Gives up the keys that cannot come to their colon any more. -/
def dropStale (s : Scanner) : Option Scanner :=
  if s.keys.any fun k => k.any fun k => k.required && !KeyStart.isOpen k s.cursor then none
  else some { s with keys := s.keys.map fun k => k.filter (KeyStart.isOpen · s.cursor) }

/-- Gives up the key that may have begun at the current level. -/
def dropKey (s : Scanner) : Option Scanner :=
  match s.keys with
  | some k :: rest => if k.required then none else some { s with keys := none :: rest }
  | _ => some s

/-- Remembers that a key may begin at the cursor. -/
def saveKey (s : Scanner) : Option Scanner :=
  if !s.keyAllowed then some s
  else (s.dropKey).map fun s =>
    let c := s.cursor
    let start : KeyStart := {
      required := !s.inFlow && s.indent == c.column
      number := s.handedOut + s.queue.length
      index := c.index, line := c.line, column := c.column }
    { s with keys := some start :: s.keys.tail }

/-! Blocks. -/

/-- Opens a block at a column right of the innermost one; its first token has a number. -/
def openBlock (s : Scanner) (column number : Nat) (t : Token) : Scanner :=
  if s.inFlow || column ≤ s.indent then s
  else { s.pushAt number t with indent := column, outer := s.indent :: s.outer }

/-- Opens a block at the cursor. -/
def openBlockHere (s : Scanner) (t : Token) : Scanner :=
  s.openBlock s.cursor.column (s.handedOut + s.queue.length) t

/-- Closes blocks, from the innermost one, that lie right of a column. -/
def closeBlocksFrom (column : Int) : Int → List Int → List Token × Int × List Int
  | indent, [] => ([], indent, [])
  | indent, next :: rest =>
    if indent ≤ column then ([], indent, next :: rest)
    else
      let (tokens, last, outer) := closeBlocksFrom column next rest
      (.blockEnd :: tokens, last, outer)

/-- Closes the blocks that lie right of a column. -/
def closeBlocks (s : Scanner) (column : Int) : Scanner :=
  if s.inFlow then s
  else
    let (tokens, indent, outer) := closeBlocksFrom column s.indent s.outer
    { s with queue := s.queue ++ tokens, indent, outer }

/-! Tokens. -/

/-- Goes to the next token past blanks, comments and ends of lines. A tab is no blank where a key
may begin, unless brackets are open. -/
def skipToToken : Nat → Scanner → Scanner
  | 0, s => s
  | fuel + 1, s =>
    let tabs := s.inFlow || !s.keyAllowed
    let start := s.cursor.skipOrderMark
    let c := (start.skipWhile fun x => x == ' ' || (tabs && x == '\t')).skipComment
    match c.rest with
    | [] => s.goTo c
    | x :: _ =>
      if isBreak x then
        let s := s.goTo c.nextLine
        skipToToken fuel (if s.inFlow then s else s.allowKey true)
      else s.goTo c

/-- Adds a token at the start of a line that ends all blocks. -/
def fetchLine (s : Scanner) (t : Token) (after : Cursor) : Option Scanner :=
  (s.closeBlocks (-1)).dropKey.map fun s => ((s.allowKey false).push t).goTo after

/-- Ends the text. No key goes on to its end. -/
def fetchEnd (s : Scanner) : Option Scanner := s.fetchLine .streamEnd s.cursor.startLine

/-- Opens a bracket. -/
def fetchOpening (s : Scanner) (t : Token) : Option Scanner :=
  (s.saveKey).map fun s =>
    (({ s with flowLevel := s.flowLevel + 1, keys := none :: s.keys }.allowKey true).push t).goTo
      s.cursor.skip

/-- Closes a bracket. -/
def fetchClosing (s : Scanner) (t : Token) : Option Scanner :=
  (s.dropKey).map fun s =>
    let s := if s.inFlow then { s with flowLevel := s.flowLevel - 1, keys := s.keys.tail } else s
    ((s.allowKey false).push t).goTo s.cursor.skip

/-- Adds a comma. -/
def fetchComma (s : Scanner) : Option Scanner :=
  (s.dropKey).map fun s => ((s.allowKey true).push .comma).goTo s.cursor.skip

/-- Adds the mark of an entry. -/
def fetchEntry (s : Scanner) : Option Scanner :=
  if !s.inFlow && !s.keyAllowed then none
  else (s.openBlockHere .blockSequenceStart).dropKey.map fun s =>
    ((s.allowKey true).push .entry).goTo s.cursor.skip

/-- Adds the mark of a key. -/
def fetchKey (s : Scanner) : Option Scanner :=
  if !s.inFlow && !s.keyAllowed then none
  else (s.openBlockHere .blockMappingStart).dropKey.map fun s =>
    ((s.allowKey !s.inFlow).push .key).goTo s.cursor.skip

/-- Adds the mark of a value, and the one of the key before it. -/
def fetchValue (s : Scanner) : Option Scanner :=
  match s.keys with
  | some k :: rest =>
    let marked := (s.pushAt k.number .key).openBlock k.column k.number .blockMappingStart
    some ((({ marked with keys := none :: rest }.allowKey false).push .value).goTo s.cursor.skip)
  | _ =>
    if !s.inFlow && !s.keyAllowed then none
    else
      some ((((s.openBlockHere .blockMappingStart).allowKey !s.inFlow).push .value).goTo
        s.cursor.skip)

/-- Adds a token that may begin a key. -/
def fetchAtom (s : Scanner) (read : Option (Token × Cursor)) : Option Scanner := do
  let s ← s.saveKey
  let (t, after) ← read
  some (((s.allowKey false).push t).goTo after)

/-- Adds a plain scalar. A key may begin in the line behind it. -/
def fetchPlain (s : Scanner) (fuel : Nat) : Option Scanner := do
  let s ← s.saveKey
  let (text, broken, after) ← Plain.read fuel s.inFlow s.indent s.cursor
  some (((s.allowKey broken).push (.scalar text true)).goTo after)

/-- Adds a block scalar. -/
def fetchBlockScalar (s : Scanner) (fuel : Nat) (literal : Bool) : Option Scanner := do
  let s ← s.dropKey
  let (text, after) ← Block.read fuel literal s.indent s.cursor
  some (((s.allowKey true).push (.scalar text false)).goTo after)

/-- Characters that begin no plain scalar. -/
def marks : List Char := [
  '-', '?', ':', ',', '[', ']', '{', '}', '#', '&', '*', '!', '|', '>', '\'', '"', '%', '@',
  Char.ofNat 0x60]

/-- Whether a plain scalar begins at a character. -/
def startsPlain (s : Scanner) (x : Char) : Bool :=
  let c := s.cursor
  !(isGap x || marks.contains x) || (x == '-' && !(c.at? 1).any isSpaceChar) ||
    (!s.inFlow && (x == '?' || x == ':') && !c.endsAt 1)

/-- Adds the token that begins with a character. -/
def fetchAt (fuel : Nat) (s : Scanner) (x : Char) : Option Scanner :=
  let c := s.cursor
  if c.column == 0 && x == '%' then do
    let (t, after) ← Token.readDirective fuel c
    s.fetchLine t after
  else if c.hasMark '-' then s.fetchLine .documentStart (c.skip 3)
  else if c.hasMark '.' then s.fetchLine .documentEnd (c.skip 3)
  else if x == '[' then s.fetchOpening .flowSequenceStart
  else if x == '{' then s.fetchOpening .flowMappingStart
  else if x == ']' then s.fetchClosing .flowSequenceEnd
  else if x == '}' then s.fetchClosing .flowMappingEnd
  else if x == ',' then s.fetchComma
  else if x == '-' && c.endsAt 1 then s.fetchEntry
  else if x == '?' && (s.inFlow || c.endsAt 1) then s.fetchKey
  else if x == ':' && (s.inFlow || c.endsAt 1) then s.fetchValue
  else if x == '*' then s.fetchAtom ((Token.readName c).map fun (n, after) => (.alias n, after))
  else if x == '&' then s.fetchAtom ((Token.readName c).map fun (n, after) => (.anchor n, after))
  else if x == '!' then s.fetchAtom (Token.readTag fuel s.inFlow c)
  else if x == '|' && !s.inFlow then s.fetchBlockScalar fuel true
  else if x == '>' && !s.inFlow then s.fetchBlockScalar fuel false
  else if x == '\'' || x == '"' then
    s.fetchAtom ((Quoted.read fuel (x == '\'') c).map fun (t, after) => (.scalar t false, after))
  else if s.startsPlain x then s.fetchPlain fuel
  else none

/-- The scanner, unless it would have to look further than can be read to see a number of
characters. -/
def seeing (count : Nat) (s : Scanner) : Option Scanner :=
  if s.isCut && s.cursor.rest.length < count then none else some s

/-- Adds the next token. -/
def fetch (fuel : Nat) (s : Scanner) : Option Scanner := do
  let s ← (skipToToken fuel s).seeing 4
  let s ← s.dropStale
  let s := s.closeBlocks s.cursor.column
  match s.cursor.rest with
  | [] => s.fetchEnd
  | x :: _ => do
    let s ← fetchAt fuel s x
    s.seeing 1

/-- Whether a key may have begun with the token of a number. -/
def mayBeKey (s : Scanner) (number : Nat) : Bool :=
  s.keys.any fun k => k.any fun k => k.number == number

/-- Takes the tokens off the queue that no mark can come before; `read` has those before them in
reverse. -/
def handOut (s : Scanner) : List Token → List Token → Nat → List Token × Scanner
  | read, [], count => (read, { s with queue := [], handedOut := count })
  | read, t :: rest, count =>
    if s.mayBeKey count then (read, { s with queue := t :: rest, handedOut := count })
    else handOut s (t :: read) rest (count + 1)

/-- Reads tokens up to the end of the text or to the first mistake; `read` has those before them in
reverse. -/
def run : Nat → List Token → Scanner → List Token
  | 0, read, _ => read
  | fuel + 1, read, s =>
    match (fetch (fuel + 1) s).bind dropStale with
    | none => read
    | some s =>
      let (read, s) := handOut s read s.queue s.handedOut
      if read.head? = some .streamEnd then read else run fuel read s

end Scanner

/-! ### Texts -/

/-- How many bytes of a text are read at a time. -/
def pieceSize : Nat := 16384

/-- What can be read of a text: all of it, or the pieces before the one with a character that no
text may hold. `start` and `read` are what was read before the piece and before the text, in reverse,
and `room` is how many more bytes the piece may hold. -/
def readable (start read : List Char) (room : Nat) : List Char → List Char × Bool
  | [] => (read.reverse, true)
  | c :: cs =>
    let (start, room) := if room < c.utf8Size then (read, pieceSize) else (start, room)
    if isAllowed c then readable start (c :: read) (room - c.utf8Size) cs
    else (start.reverse, false)

/-- The tokens of a text. -/
def Token.scan (text : String) : List Token :=
  let (cs, whole) := readable [] [] pieceSize text.toList
  let s : Scanner := { cursor := { rest := cs }, isCut := !whole, handedOut := 1 }
  (Scanner.run (cs.length + 2) [.streamStart] s).reverse

end Yaml

end FlowGraph
