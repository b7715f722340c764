import FlowGraph.Json.Tree
import FlowGraph.Number.Decimal
import FlowGraph.Number.Radix
import FlowGraph.Text.Blank

/-! # JSON texts, read

`Json.readDocument` reads a text as a `Tree` that breaks off where the text stops being JSON, and
`Json.parse` reads it as a value.

A number without fraction and exponent is exact while it fits the integers of `Json.isExact`. Every
other number is a double: as many of its leading digits as fit 64 bits make a significand, which is
rounded to a double, and one multiplication or division by a power of ten follows. So the double is
the nearest one for short numbers, and within a few units of it for long ones. A number too large
for a double can be skipped, not read. -/

namespace FlowGraph

namespace Json

/-! ### Numbers -/

namespace Numeral

/-- A numeral: sign, digits before and after the point, exponent. -/
structure Parts where
  negative : Bool
  whole : List Char
  /-- The digits after the point, if there is one. -/
  fraction : Option (List Char)
  /-- The sign and the digits of the exponent, if there is one. -/
  exponent : Option (Bool × List Char)

/-- One more than the largest significand. -/
def significandLimit : Nat := Nat.pow 2 64

/-- Appends digits to a significand while it stays below the limit; the digits left over. -/
def absorb (n : Nat) : List Char → Nat × List Char
  | [] => (n, [])
  | c :: cs =>
    let next := 10 * n + Decimal.digitValue c
    if next < significandLimit then absorb next cs else (n, c :: cs)

/-- The largest power of ten that is a double. -/
def largestPower : Nat := 308

/-- `10 ^ n` as a double, for `n` up to the largest power. -/
def powerOfTen (n : Nat) : Double := Double.ofRatio false (Nat.pow 10 n) 1

/-- A double times a power of ten, a large negative power taken in steps; none if the result is
not finite. -/
def scale : Nat → Double → Int → Option Double
  | 0, d, _ => some d
  | fuel + 1, d, e =>
    if e.natAbs ≤ largestPower then
      if 0 ≤ e then
        let r := d.mul (powerOfTen e.natAbs)
        if r.isFinite then some r else none
      else some (d.div (powerOfTen e.natAbs))
    else if d.isZero then some d
    else if 0 ≤ e then none
    else scale fuel (d.div (powerOfTen largestPower)) (e + largestPower)

/-- Four steps bring every significand to zero. -/
def scaleSteps : Nat := 4

/-- The double `significand * 10 ^ e` with a sign. -/
def toDouble? (negative : Bool) (significand : Nat) (e : Int) : Option Double :=
  (scale scaleSteps (Double.ofInt significand) e).map fun d => if negative then d.neg else d

/-- The largest exponent that is counted. -/
def exponentLimit : Nat := Nat.pow 2 31 - 1

/-- The value of a numeral, unless it is out of range. -/
def value? (p : Parts) : Option Json :=
  let (n, left) := absorb 0 p.whole
  if left.isEmpty && p.fraction.isNone && p.exponent.isNone &&
      !(p.negative && (n == 0 || n > Nat.pow 2 63)) then
    some (.int (if p.negative then -(n : Int) else n))
  else
    let fraction := p.fraction.getD []
    let (m, rest) := absorb n fraction
    let base : Int := (left.length : Int) - ((fraction.length : Int) - rest.length)
    match p.exponent with
    | none => (toDouble? p.negative m base).map Json.float
    | some (small, ds) =>
      let e := Decimal.ofDigits ds
      if e > exponentLimit then
        if m ≠ 0 ∧ ¬ small then none
        else some (.float (Double.ofMagnitude p.negative 0))
      else (toDouble? p.negative m (if small then base - e else base + e)).map Json.float

end Numeral

/-! ### Texts -/

namespace Reader

/-- What stands at the front of a text, and what follows unless the text breaks off. -/
abbrev Found := Tree × Option (List Char)

/-- The text breaks off. -/
def broken : Found := (.broken, none)

/-- A blank between tokens. -/
def isSpace (c : Char) : Bool := c == ' ' || c == '\n' || c == '\t' || c == '\r'

def skipSpace (cs : List Char) : List Char := cs.dropWhile isSpace

/-- The digits after a mark, at least one. -/
def someDigits (cs : List Char) : Option (List Char × List Char) :=
  let (ds, rest) := Decimal.readDigits cs
  if ds.isEmpty then none else some (ds, rest)

/-- The digits before the point: a zero stands alone. -/
def wholeDigits (cs : List Char) : Option (List Char × List Char) :=
  match someDigits cs with
  | some ('0' :: _ :: _, _) => none
  | found => found

/-- The point and its digits, if there is a point. -/
def fractionDigits : List Char → Option (Option (List Char) × List Char)
  | '.' :: cs => (someDigits cs).map fun (ds, rest) => (some ds, rest)
  | cs => some (none, cs)

/-- The exponent, if there is one. -/
def exponentDigits (cs : List Char) : Option (Option (Bool × List Char) × List Char) :=
  match cs with
  | [] => some (none, [])
  | c :: rest =>
    if c = 'e' ∨ c = 'E' then
      let (small, ds) := Decimal.readSign rest
      (someDigits ds).map fun (digits, after) => (some (small, digits), after)
    else some (none, cs)

/-- A numeral without its sign. -/
def numeral (negative : Bool) (cs : List Char) : Option (Numeral.Parts × List Char) := do
  let (whole, afterWhole) ← wholeDigits cs
  let (fraction, afterFraction) ← fractionDigits afterWhole
  let (exponent, rest) ← exponentDigits afterFraction
  some (⟨negative, whole, fraction, exponent⟩, rest)

/-- A number. -/
def number (negative : Bool) (cs : List Char) : Found :=
  match numeral negative cs with
  | none => broken
  | some (p, rest) =>
    (match Numeral.value? p with
      | some j => Tree.ofAtom j
      | none => Tree.unreadable, some rest)

/-- Four hexadecimal digits. -/
def hexUnit? : List Char → Option (Nat × List Char)
  | a :: b :: c :: d :: rest => do
    let a ← hexDigit? a
    let b ← hexDigit? b
    let c ← hexDigit? c
    let d ← hexDigit? d
    some (((a * 16 + b) * 16 + c) * 16 + d, rest)
  | _ => none

/-- The second half of a pair of units. -/
def lowUnit? : List Char → Option (Nat × List Char)
  | '\\' :: 'u' :: cs =>
    match hexUnit? cs with
    | some (n, rest) => if 0xDC00 ≤ n ∧ n ≤ 0xDFFF then some (n, rest) else none
    | none => none
  | _ => none

/-- The character of a unit; a high unit takes the low one after it. No character is given by half
of a pair. -/
def unitChar (n : Nat) (rest : List Char) : Option Char × List Char :=
  if 0xD800 ≤ n ∧ n ≤ 0xDBFF then
    match lowUnit? rest with
    | some (low, after) => (some (Char.ofNat ((n - 0xD800) * 0x400 + (low - 0xDC00) + 0x10000)), after)
    | none => (none, rest)
  else if 0xDC00 ≤ n ∧ n ≤ 0xDFFF then (none, rest)
  else (some (Char.ofNat n), rest)

/-- The character an escape stands for, after its backslash. -/
def escape? : List Char → Option (Option Char × List Char)
  | [] => none
  | c :: rest =>
    if c = 'u' then (hexUnit? rest).map fun (n, after) => unitChar n after
    else if c = '"' ∨ c = '\\' ∨ c = '/' then some (some c, rest)
    else if c = 'b' then some (some (Char.ofNat 8), rest)
    else if c = 'f' then some (some (Char.ofNat 12), rest)
    else if c = 'n' then some (some '\n', rest)
    else if c = 'r' then some (some '\r', rest)
    else if c = 't' then some (some '\t', rest)
    else none

/-- The rest of a quoted text: its characters, unless half of a pair is among them, and what
follows the closing quote. The characters read before come in reverse. -/
def chars : Nat → Option (List Char) → List Char → Option (Option (List Char) × List Char)
  | 0, _, _ => none
  | _ + 1, _, [] => none
  | fuel + 1, read, c :: rest =>
    if c = '"' then some (read.map List.reverse, rest)
    else if c = '\\' then
      match escape? rest with
      | none => none
      | some (found, after) =>
        chars fuel (do let cs ← read; let e ← found; some (e :: cs)) after
    else if c.toNat < 0x20 then none
    else chars fuel (read.map (c :: ·)) rest

/-- A quoted text after its opening quote. -/
def quotedText (cs : List Char) : Found :=
  match chars (cs.length + 1) (some []) cs with
  | none => broken
  | some (some s, rest) => (Tree.ofText (String.ofList s), some rest)
  | some (none, rest) => (Tree.unreadable, some rest)

/-- A word with a fixed value. -/
def word (expected : String) (j : Json) (cs : List Char) : Found :=
  match Text.dropStart? cs expected.toList with
  | some rest => (Tree.ofAtom j, some rest)
  | none => broken

/-- Containers nested deeper than this can be skipped, not read. -/
def depthLimit : Nat := 127

/-- Where a character stands: outside of quotes, inside, or inside behind a backslash. -/
inductive Quoting where
  | outside
  | inside
  | escaped

/-- The quoting behind a character in quotes. -/
def Quoting.next (c : Char) : Quoting :=
  if c = '\\' then .escaped else if c = '"' then .outside else .inside

/-- Where containers are nested too deeply: the place of the first bracket at which they are, in
bytes. Brackets in quotes do not count. -/
def excess? (level place : Nat) (quoting : Quoting) : List Char → Option Nat
  | [] => none
  | c :: cs =>
    let next := place + c.utf8Size
    match quoting with
    | .escaped => excess? level next .inside cs
    | .inside => excess? level next (.next c) cs
    | .outside =>
      if c = '[' ∨ c = '\x7b' then
        if level < depthLimit then excess? (level + 1) next .outside cs else some next
      else if c = ']' ∨ c = '\x7d' then excess? (level - 1) next .outside cs
      else excess? level next (if c = '"' then .inside else .outside) cs

/-- A container at a level. -/
def container (level : Nat) (t : Tree) (rest : Option (List Char)) : Found :=
  if level ≤ depthLimit then (t, rest)
  else if rest.isSome then (Tree.unreadable, rest)
  else broken

mutual

/-- The value at the front of a text, at a level of nesting. -/
def valueAt : Nat → Nat → List Char → Found
  | 0, _, _ => broken
  | fuel + 1, level, cs =>
    match skipSpace cs with
    | [] => broken
    | c :: rest =>
      if c = '"' then quotedText rest
      else if c = '[' then
        match skipSpace rest with
        | ']' :: after => container (level + 1) (.seq .exactly []) (some after)
        | inner =>
          let (items, after) := itemsAt fuel (level + 1) inner
          container (level + 1) (.seq .exactly items) after
      else if c = '{' then
        match skipSpace rest with
        | '}' :: after => container (level + 1) (.map []) (some after)
        | inner =>
          let (entries, after) := entriesAt fuel (level + 1) inner
          container (level + 1) (.map entries) after
      else if c = '-' then number true rest
      else if c.isDigit then number false (c :: rest)
      else if c = 'n' then word "null" .null (c :: rest)
      else if c = 't' then word "true" (.bool true) (c :: rest)
      else if c = 'f' then word "false" (.bool false) (c :: rest)
      else broken

/-- The items of an array up to its end. -/
def itemsAt : Nat → Nat → List Char → List Tree × Option (List Char)
  | 0, _, _ => ([.broken], none)
  | fuel + 1, level, cs =>
    match valueAt fuel level cs with
    | (t, none) => ([t], none)
    | (t, some rest) =>
      match skipSpace rest with
      | ']' :: after => ([t], some after)
      | ',' :: after =>
        let (ts, last) := itemsAt fuel level after
        (t :: ts, last)
      | _ => ([t, .broken], none)

/-- The entries of an object up to its end. -/
def entriesAt : Nat → Nat → List Char → List (Tree × Tree) × Option (List Char)
  | 0, _, _ => ([(.broken, .broken)], none)
  | fuel + 1, level, cs =>
    match skipSpace cs with
    | '"' :: rest =>
      match quotedText rest with
      | (k, none) => ([(k, .broken)], none)
      | (k, some afterKey) =>
        match skipSpace afterKey with
        | ':' :: afterColon =>
          match valueAt fuel level afterColon with
          | (t, none) => ([(k, t)], none)
          | (t, some afterValue) =>
            match skipSpace afterValue with
            | '}' :: after => ([(k, t)], some after)
            | ',' :: after =>
              let (es, last) := entriesAt fuel level after
              ((k, t) :: es, last)
            | _ => ([(k, t), (.broken, .broken)], none)
        | _ => ([(k, .broken)], none)
    | _ => ([(.broken, .broken)], none)

end

end Reader

/-- A text as a document, and whether nothing but blanks follows its value. -/
def readDocument (text : String) : Tree × Bool :=
  let cs := text.toList
  match Reader.valueAt (2 * cs.length + 2) 0 cs with
  | (t, none) => (t, true)
  | (t, some rest) => (t, (Reader.skipSpace rest).isEmpty)

/-- Decodes a whole text. -/
def decodeText {α : Type} (read : Tree → Decoded α) (text : String) : Decoded α :=
  let (t, whole) := readDocument text
  match read t with
  | .error e => .error e.inText
  | .ok a => if whole then .ok a else .error .malformed

/-- The value of a text. -/
def parse (text : String) : Decoded Json := decodeText Tree.value text

end Json

end FlowGraph
