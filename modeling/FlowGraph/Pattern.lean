import FlowGraph.Number.Radix
import FlowGraph.Pattern.Part
import FlowGraph.Text.Blank
import FlowGraph.Text.Letters

/-! # Pattern texts

`Pattern.parse?` reads the usual notation of regular expressions: classes, groups, alternatives,
repetitions, anchors, word boundaries and the flags `i m s x R U u`. The classes `\d`, `\s`, `\w`
and the flag `i` know the first 128 characters only. There is no text for a pattern with
back-references, look-around or classes by property, nor for one that does not keep within the
limits of `Part.fits`. -/

namespace FlowGraph

namespace Pattern

namespace Grammar

/-! ### Flags -/

/-- How the rest of a group is read. -/
structure Flags where
  ignoreCase : Bool
  multiLine : Bool
  dotAll : Bool
  anyLineEnd : Bool
  spaced : Bool
  /-- Whether a pattern is about characters and not about bytes. -/
  unicode : Bool

/-- A pattern is about characters at the start; no other flag is set. -/
def Flags.start : Flags := ⟨false, false, false, false, false, true⟩

/-- Sets the flag of a letter; some letters are allowed and change no match. -/
def Flags.set? (f : Flags) (value : Bool) (c : Char) : Option Flags :=
  if c = 'i' then some { f with ignoreCase := value }
  else if c = 'm' then some { f with multiLine := value }
  else if c = 's' then some { f with dotAll := value }
  else if c = 'R' then some { f with anyLineEnd := value }
  else if c = 'x' then some { f with spaced := value }
  else if c = 'u' then some { f with unicode := value }
  else if c = 'U' then some f
  else none

/-- Drops blanks and comments. -/
def dropSpaced : Bool → List Char → List Char
  | _, [] => []
  | true, c :: cs => dropSpaced (c != '\n') cs
  | false, c :: cs =>
    if Text.isBlank c then dropSpaced false cs
    else if c = '#' then dropSpaced true cs
    else c :: cs

/-- Drops what the flags let stand between the marks of a pattern. -/
def Flags.drop (f : Flags) (cs : List Char) : List Char :=
  if f.spaced then dropSpaced false cs else cs

/-- The letters of a flag group up to its end, which is left standing. -/
def flagLetters (f : Flags) (off : Bool) (seen : List Char) (dangling : Bool) :
    List Char → Option (Flags × List Char)
  | [] => none
  | c :: cs =>
    if c = ':' ∨ c = ')' then if dangling then none else some (f, c :: cs)
    else if c = '-' then if off then none else flagLetters f true seen true cs
    else if seen.contains c then none
    else match f.set? (!off) c with
      | none => none
      | some g => flagLetters g off (c :: seen) false cs

/-! ### Characters and classes -/

/-- One code point. -/
def one (c : Char) : CodeRanges := [(c.toNat, c.toNat)]

def digits : CodeRanges := [('0'.toNat, '9'.toNat)]
def lowers : CodeRanges := [('a'.toNat, 'z'.toNat)]
def uppers : CodeRanges := [('A'.toNat, 'Z'.toNat)]
def blanks : CodeRanges := [(9, 13), (32, 32)]
def wordChars : CodeRanges := digits ++ uppers ++ one '_' ++ lowers

/-- The named classes. -/
def namedClasses : List (String × CodeRanges) := [
  ("alnum", digits ++ uppers ++ lowers), ("alpha", uppers ++ lowers), ("ascii", [(0, 0x7F)]),
  ("blank", [(9, 9), (32, 32)]), ("cntrl", [(0, 0x1F), (0x7F, 0x7F)]), ("digit", digits),
  ("graph", [(0x21, 0x7E)]), ("lower", lowers), ("print", [(0x20, 0x7E)]),
  ("punct", [(0x21, 0x2F), (0x3A, 0x40), (0x5B, 0x60), (0x7B, 0x7E)]), ("space", blanks),
  ("upper", uppers), ("word", wordChars),
  ("xdigit", digits ++ [('A'.toNat, 'F'.toNat), ('a'.toNat, 'f'.toNat)])]

/-- What an escape stands for. -/
inductive Escaped where
  | char (c : Char)
  | ranges (r : CodeRanges)
  | assertion (a : Assertion)

/-- A character under the flags: with case ignored, a letter is a class of two. -/
def Flags.char (f : Flags) (c : Char) : Escaped :=
  if f.ignoreCase && c.isAlpha then .ranges (one c).foldCase else .char c

/-- The part for an escape. -/
def Escaped.part : Escaped → Part
  | .char c => .char c
  | .ranges r => .ranges r
  | .assertion a => .assertion a

/-- Characters with a meaning of their own, which a backslash takes away. -/
def isEscapable (c : Char) : Bool :=
  c.toNat < 0x80 && !c.isAlphanum && c != '<' && c != '>'

/-- The character of a code point. -/
def charOf? (n : Nat) : Option Char := if n.isValidChar then some (Char.ofNat n) else none

/-- A fixed count of hexadecimal digits. -/
def hexFixed (f : Flags) : Nat → Nat → List Char → Option (Nat × List Char)
  | 0, n, cs => some (n, cs)
  | _ + 1, _, [] => none
  | count + 1, n, c :: cs => do
    let d ← hexDigit? c
    hexFixed f count (16 * n + d) (f.drop cs)

/-- Hexadecimal digits up to a closing brace. -/
def hexBraced (f : Flags) : Nat → Bool → Nat → List Char → Option (Nat × List Char)
  | 0, _, _, _ => none
  | fuel + 1, any, n, cs =>
    match f.drop cs with
    | [] => none
    | c :: rest =>
      if c = '}' then if any then some (n, rest) else none
      else match hexDigit? c with
        | none => none
        | some d => hexBraced f fuel true (16 * n + d) rest

/-- A character by its code, after the letter that says how many digits it has. -/
def hexChar (f : Flags) (count : Nat) (cs : List Char) : Option (Escaped × List Char) := do
  let (n, rest) ← match f.drop cs with
    | [] => none
    | '{' :: inner => hexBraced f (inner.length + 1) false 0 inner
    | digits => hexFixed f count 0 digits
  let c ← charOf? n
  some (f.char c, rest)

/-- The word boundaries with a name. -/
def boundaryNames : List (String × Assertion) := [
  ("start", .wordStart), ("end", .wordEnd), ("start-half", .noWordBefore),
  ("end-half", .noWordAfter)]

/-- A letter of a boundary's name. -/
def isBoundaryLetter (c : Char) : Bool := c.isAlpha || c == '-'

/-- The name of a boundary up to its closing brace. -/
def boundaryName (f : Flags) : Nat → List Char → List Char → Option (List Char × List Char)
  | 0, _, _ => none
  | fuel + 1, name, cs =>
    match cs with
    | [] => none
    | c :: rest =>
      if c = '}' then some (name.reverse, rest)
      else if isBoundaryLetter c then boundaryName f fuel (c :: name) (f.drop rest)
      else none

/-- A word boundary after `\b`, which a name in braces may make a special one. -/
def boundary (f : Flags) (cs : List Char) : Option (Escaped × List Char) :=
  match cs with
  | '{' :: rest =>
    match f.drop rest with
    | [] => none
    | c :: inner =>
      if isBoundaryLetter c then do
        let (name, after) ← boundaryName f (inner.length + 2) [] (c :: inner)
        let a ← boundaryNames.lookup (String.ofList name)
        some (.assertion a, after)
      else some (.assertion .wordBoundary, cs)
  | _ => some (.assertion .wordBoundary, cs)

/-- The classes of one letter; a capital stands for all other characters. -/
def letterClass? (c : Char) : Option CodeRanges :=
  if c = 'd' then some digits
  else if c = 's' then some blanks
  else if c = 'w' then some wordChars
  else if c = 'D' then some (CodeRanges.complement digits)
  else if c = 'S' then some (CodeRanges.complement blanks)
  else if c = 'W' then some (CodeRanges.complement wordChars)
  else none

/-- The control characters with a letter of their own. -/
def controlChars : List (Char × Char) :=
  [('a', Char.ofNat 7), ('f', Char.ofNat 12), ('t', '\t'), ('n', '\n'), ('r', '\r'),
    ('v', Char.ofNat 11)]

/-- The assertions with a letter of their own. -/
def assertionChars : List (Char × Assertion) :=
  [('A', .start), ('z', .finish), ('B', .noWordBoundary), ('<', .wordStart), ('>', .wordEnd)]

/-- An escape after its backslash. -/
def escape (f : Flags) : List Char → Option (Escaped × List Char)
  | [] => none
  | c :: cs =>
    if c = 'x' then hexChar f 2 cs
    else if c = 'u' then hexChar f 4 cs
    else if c = 'U' then hexChar f 8 cs
    else if c = 'b' then boundary f cs
    else match letterClass? c with
      | some r => some (.ranges r, cs)
      | none =>
        if isEscapable c then some (f.char c, cs)
        else match controlChars.lookup c with
          | some control => some (f.char control, cs)
          | none => (assertionChars.lookup c).map fun a => (.assertion a, cs)

/-- A named class after its opening bracket. -/
def namedClass (cs : List Char) : Option (CodeRanges × List Char) :=
  match cs with
  | ':' :: rest =>
    let (negated, named) := match rest with
      | '^' :: r => (true, r)
      | r => (false, r)
    let name := named.takeWhile (· != ':')
    match named.dropWhile (· != ':') with
    | ':' :: ']' :: after =>
      (namedClasses.lookup (String.ofList name)).map fun r =>
        (if negated then CodeRanges.complement r else r, after)
    | _ => none
  | _ => none

/-- A character or an escape inside a class. -/
def classItem (f : Flags) : List Char → Option (Escaped × List Char)
  | [] => none
  | c :: cs => if c = '\\' then escape f cs else some (.char c, cs)

/-- The ranges of an item of a class. -/
def Escaped.ranges? : Escaped → Option CodeRanges
  | .char c => some (one c)
  | .ranges r => some r
  | .assertion _ => none

/-- The end of a range of a class. -/
def Escaped.char? : Escaped → Option Char
  | .char c => some c
  | _ => none

/-- The character that decides what a dash before it means. Where blanks may stand between the marks
they are passed over, and so is one `#`; without another character after these it is the first. -/
def Flags.deciding? (f : Flags) (cs : List Char) : Option Char :=
  if f.spaced then
    let next? := match cs.dropWhile Text.isBlank with
      | '#' :: rest => (rest.dropWhile Text.isBlank).head?
      | rest => rest.head?
    next?.or cs.head?
  else cs.head?

/-- Whether a dash after an item starts a range: it does not before a bracket or another dash. -/
def startsRange (f : Flags) : List Char → Bool
  | '-' :: cs => f.deciding? cs != some ']' && f.deciding? cs != some '-'
  | _ => false

/-- An item of a class or a range between two. -/
def classRange (f : Flags) (cs : List Char) : Option (CodeRanges × List Char) := do
  let (first, afterFirst) ← classItem f cs
  let rest := f.drop afterFirst
  if rest.isEmpty then none
  else if startsRange f rest then do
    let (second, after) ← classItem f (f.drop (rest.drop 1))
    let lo ← first.char?
    let hi ← second.char?
    if hi < lo then none else some ([(lo.toNat, hi.toNat)], after)
  else do
    let r ← first.ranges?
    some (r, rest)

/-- Whether two of the marks that join classes stand here. -/
def joinsClasses : List Char → Bool
  | '&' :: '&' :: _ => true
  | '-' :: '-' :: _ => true
  | '~' :: '~' :: _ => true
  | _ => false

/-- The items of a class up to its closing bracket. -/
def classItems (f : Flags) : Nat → CodeRanges → List Char → Option (CodeRanges × List Char)
  | 0, _, _ => none
  | fuel + 1, found, cs =>
    match f.drop cs with
    | [] => none
    | c :: rest =>
      if c = ']' then some (found, rest)
      else if c = '[' then do
        let (r, after) ← namedClass rest
        classItems f fuel (found ++ r) after
      else if joinsClasses (c :: rest) then none
      else do
        let (r, after) ← classRange f (c :: rest)
        classItems f fuel (found ++ r) after

/-- The dashes at the front of a class stand for themselves. -/
def leadingDashes (f : Flags) : Nat → CodeRanges → List Char → CodeRanges × List Char
  | 0, found, cs => (found, cs)
  | fuel + 1, found, cs =>
    match cs with
    | '-' :: rest => leadingDashes f fuel (found ++ one '-') (f.drop rest)
    | _ => (found, cs)

/-- A class after its opening bracket. -/
def charClass (f : Flags) (cs : List Char) : Option (Part × List Char) := do
  let (negated, inner) := match f.drop cs with
    | '^' :: rest => (true, f.drop rest)
    | rest => (false, rest)
  let (dashes, afterDashes) := leadingDashes f inner.length [] inner
  let (found, body) := match dashes, afterDashes with
    | [], ']' :: rest => (one ']', f.drop rest)
    | found, rest => (found, rest)
  let (ranges, after) ← classItems f (body.length + 1) found body
  let folded := if f.ignoreCase then CodeRanges.foldCase ranges else ranges
  some (.ranges (if negated then folded.complement else folded.merged), after)

/-! ### Repetitions -/

/-- A repetition of the last of the parts read so far. -/
def repeatLast (least : Nat) (most : Option Nat) : List Part → Option (List Part)
  | [] => none
  | p :: parts => some (p.repeated least most :: parts)

/-- Whether as few repeats as possible are asked for makes no difference to what is found. -/
def dropLazyMark : List Char → List Char
  | '?' :: cs => cs
  | cs => cs

/-- A number in a repetition, with blanks around it. -/
def repeatNumber (f : Flags) (cs : List Char) : Option (Nat × List Char) :=
  let start := cs.dropWhile Text.isBlank
  let rec go : Nat → Bool → Nat → List Char → Bool × Nat × List Char
    | 0, any, n, cs => (any, n, cs)
    | _ + 1, any, n, [] => (any, n, [])
    | fuel + 1, any, n, c :: cs =>
      if c.isDigit then go fuel true (10 * n + (c.toNat - '0'.toNat)) (f.drop cs)
      else (any, n, c :: cs)
  let (any, n, rest) := go start.length false 0 start
  if any && n < Nat.pow 2 32 then some (n, f.drop (rest.dropWhile Text.isBlank)) else none

/-- The bounds of a repetition after its opening brace. -/
def bounds (f : Flags) (cs : List Char) : Option (Nat × Option Nat × List Char) := do
  let (least, afterLeast) ← repeatNumber f (f.drop cs)
  match afterLeast with
  | '}' :: rest => some (least, some least, rest)
  | ',' :: inner =>
    match f.drop inner with
    | '}' :: rest => some (least, none, rest)
    | more =>
      let (most, afterMost) ← repeatNumber f more
      match afterMost with
      | '}' :: rest => if most < least then none else some (least, some most, rest)
      | _ => none
  | _ => none

/-! ### Groups and alternatives -/

/-- A letter of a group's name. -/
def isNameChar (first : Bool) (c : Char) : Bool :=
  c == '_' || Text.isLetter c ||
    (!first && (Text.isAlphanumeric c || c == '.' || c == '[' || c == ']'))

/-- The name of a group up to its closing mark. -/
def groupName : Bool → List Char → List Char → Option (List Char × List Char)
  | _, _, [] => none
  | first, name, c :: cs =>
    if c = '>' then if name.isEmpty then none else some (name.reverse, cs)
    else if isNameChar first c then groupName false (c :: name) cs
    else none

/-- Whether a look around the place follows the opening parenthesis. -/
def looksAround (cs : List Char) : Bool :=
  ["?=", "?!", "?<=", "?<!"].any fun mark => (Text.dropStart? cs mark.toList).isSome

/-- The name after the mark of a named group. -/
def namedGroup? (cs : List Char) : Option (List Char) :=
  (Text.dropStart? cs "?P<".toList).or (Text.dropStart? cs "?<".toList)

/-- Any character, or any but the end of a line. -/
def Flags.dot (f : Flags) : Part :=
  if f.dotAll then .ranges [(0, CodeRanges.largest)]
  else if f.anyLineEnd then .ranges (CodeRanges.complement (one '\n' ++ one '\r'))
  else .ranges (CodeRanges.complement (one '\n'))

/-- The start of the text or of a line. -/
def Flags.opening (f : Flags) : Assertion :=
  if f.multiLine then if f.anyLineEnd then .anyLineStart else .lineStart else .start

/-- The end of the text or of a line. -/
def Flags.ending (f : Flags) : Assertion :=
  if f.multiLine then if f.anyLineEnd then .anyLineEnd else .lineEnd else .finish

/-- A part found at the front of a text, the names of the groups so far, and what follows. A group
without a name counts with an empty one. -/
abbrev Found := Part × List (List Char) × List Char

/-- The choice among finished alternatives, given last to first, and the one under way, whose parts
come last to first. -/
def finish (finished parts : List Part) : Part :=
  match (Part.inSequence parts.reverse :: finished).reverse with
  | [] => .empty
  | first :: others => .choice first others

/-- The alternatives up to the end of the text or of the group at some depth. Finished alternatives
and the parts of the one under way come last to first. -/
def alternatives : Nat → Nat → Flags → List (List Char) → List Part → List Part → List Char →
    Option Found
  | 0, _, _, _, _, _, _ => none
  | fuel + 1, depth, f, groups, finished, parts, cs =>
    match f.drop cs with
    | [] => some (finish finished parts, groups, [])
    | c :: rest =>
      if c = ')' then
        if depth = 0 then none else some (finish finished parts, groups, c :: rest)
      else if c = '|' then
        alternatives fuel depth f groups (.inSequence parts.reverse :: finished) [] rest
      else if c = '(' then
        let inner := f.drop rest
        let group (g : Flags) (close : Part → Part) (groups' : List (List Char))
            (body : List Char) : Option Found :=
          if nestLimit ≤ depth then none
          else do
            let (sub, groups'', after) ← alternatives fuel (depth + 1) g groups' [] [] body
            match after with
            | ')' :: next => alternatives fuel depth f groups'' finished (close sub :: parts) next
            | _ => none
        if looksAround inner then none
        else match namedGroup? inner with
          | some named => do
            let (name, body) ← groupName true [] named
            if groups.contains name then none else group f .group (name :: groups) body
          | none => match inner with
            | '?' :: letters => do
              let (g, after) ← flagLetters f false [] false letters
              match after with
              | ')' :: next =>
                if letters.length = after.length then none
                else alternatives fuel depth g groups finished parts next
              | ':' :: body => group g id groups body
              | _ => none
            | body => group f .group ([] :: groups) body
      else if c = '[' then do
        let (p, after) ← charClass f rest
        alternatives fuel depth f groups finished (p :: parts) after
      else if c = '?' then do
        let parts' ← repeatLast 0 (some 1) parts
        alternatives fuel depth f groups finished parts' (dropLazyMark rest)
      else if c = '*' then do
        let parts' ← repeatLast 0 none parts
        alternatives fuel depth f groups finished parts' (dropLazyMark rest)
      else if c = '+' then do
        let parts' ← repeatLast 1 none parts
        alternatives fuel depth f groups finished parts' (dropLazyMark rest)
      else if c = '{' then do
        let (least, most, after) ← bounds f rest
        let parts' ← repeatLast least most parts
        alternatives fuel depth f groups finished parts' (dropLazyMark (f.drop after))
      else if c = '\\' then do
        let (e, after) ← escape f rest
        alternatives fuel depth f groups finished (e.part :: parts) after
      else
        let p := if c = '.' then f.dot
          else if c = '^' then .assertion f.opening
          else if c = '$' then .assertion f.ending
          else (f.char c).part
        alternatives fuel depth f groups finished (p :: parts) rest

end Grammar

/-- The pattern of a text. -/
def parse? (text : String) : Option Pattern :=
  let cs := text.toList
  match Grammar.alternatives (2 * cs.length + 2) 0 .start [] [] [] cs with
  | some (p, groups, []) => if p.fits groups then some p.pattern else none
  | _ => none

end Pattern

end FlowGraph
