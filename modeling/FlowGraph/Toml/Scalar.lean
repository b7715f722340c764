import FlowGraph.Number.Decimal
import FlowGraph.Number.Radix
import FlowGraph.Text.Blank
import FlowGraph.Toml.Basic

/-! # Scalars of TOML documents

Texts in single and in triple quotes, with and without escapes; numbers with underscores between
digits; dates and times. Each function reads from the front of a text and gives what follows. -/

namespace FlowGraph

namespace Toml

/-- What is read at the front of a text, and what follows it. -/
abbrev Reading (α : Type) := α × List Char

/-! ### Lines -/

/-- A blank within a line. -/
def isSpace (c : Char) : Bool := c == ' ' || c == '\t'

/-- What follows the blanks at the front. -/
def skipSpace (cs : List Char) : List Char := cs.dropWhile isSpace

/-- A character of a comment or of a text on one line. -/
def isVisible (c : Char) : Bool := c == '\t' || (0x20 ≤ c.toNat && c.toNat != 0x7F)

/-- What follows a comment, if one stands at the front. -/
def skipComment : List Char → List Char
  | '#' :: rest => rest.dropWhile isVisible
  | cs => cs

/-- What follows the end of a line. -/
def lineBreak? : List Char → Option (List Char)
  | '\n' :: rest => some rest
  | '\r' :: '\n' :: rest => some rest
  | _ => none

/-- What follows blanks and ends of lines. -/
def skipLines : Nat → List Char → List Char
  | 0, cs => cs
  | fuel + 1, cs =>
    match lineBreak? (skipSpace cs) with
    | some rest => skipLines fuel rest
    | none => skipSpace cs

/-! ### Texts -/

/-- The character of a number of hexadecimal digits. -/
def codePoint? (count : Nat) (cs : List Char) : Option (Reading Char) := do
  let digits := cs.take count
  if digits.length < count then none
  else
    let n ← ofRadix? 16 digits
    if n.isValidChar then some (Char.ofNat n, cs.drop count) else none

/-- The character an escape stands for, after its backslash. -/
def escape? : List Char → Option (Reading Char)
  | [] => none
  | c :: rest =>
    if c = 'b' then some (Char.ofNat 8, rest)
    else if c = 't' then some ('\t', rest)
    else if c = 'n' then some ('\n', rest)
    else if c = 'f' then some (Char.ofNat 12, rest)
    else if c = 'r' then some ('\r', rest)
    else if c = '"' ∨ c = '\\' then some (c, rest)
    else if c = 'u' then codePoint? 4 rest
    else if c = 'U' then codePoint? 8 rest
    else none

/-- The rest of a text in double quotes. -/
def basicChars : Nat → List Char → Option (Reading (List Char))
  | 0, _ => none
  | _ + 1, [] => none
  | fuel + 1, c :: rest =>
    if c = '"' then some ([], rest)
    else if c = '\\' then do
      let (e, after) ← escape? rest
      let (cs, last) ← basicChars fuel after
      some (e :: cs, last)
    else if isVisible c then do
      let (cs, last) ← basicChars fuel rest
      some (c :: cs, last)
    else none

/-- The rest of a text in single quotes. -/
def literalChars (cs : List Char) : Option (Reading (List Char)) :=
  match cs.dropWhile fun c => isVisible c && c != '\'' with
  | '\'' :: rest => some (cs.takeWhile fun c => isVisible c && c != '\'', rest)
  | _ => none

/-- The quotes that still belong to a text before its closing ones, two at most. -/
def finalQuotes (quote : Char) (cs : List Char) : List Char × List Char :=
  let own := (cs.take 2).takeWhile (· == quote)
  (own, cs.drop own.length)

/-- What follows an end of a line and the blanks and lines after it, if a backslash before it joins
the lines. -/
def joinedLines? (cs : List Char) : Option (List Char) :=
  (lineBreak? (skipSpace cs)).map fun rest => skipLines rest.length rest

/-- The rest of a text in triple quotes. -/
def blockChars (quote : Char) (escapes : Bool) : Nat → List Char → Option (Reading (List Char))
  | 0, _ => none
  | _ + 1, [] => none
  | fuel + 1, c :: rest =>
    match Text.dropStart? (c :: rest) [quote, quote, quote] with
    | some after => some (finalQuotes quote after)
    | none =>
      if escapes && c == '\\' then
        match joinedLines? rest with
        | some after => blockChars quote escapes fuel after
        | none => do
          let (e, after) ← escape? rest
          let (cs, last) ← blockChars quote escapes fuel after
          some (e :: cs, last)
      else match lineBreak? (c :: rest) with
        | some after => do
          let (cs, last) ← blockChars quote escapes fuel after
          some ('\n' :: cs, last)
        | none =>
          if isVisible c then do
            let (cs, last) ← blockChars quote escapes fuel rest
            some (c :: cs, last)
          else none

/-- The rest of a text in triple quotes; an end of a line right after them is left out. -/
def block (quote : Char) (escapes : Bool) (cs : List Char) : Option (Reading (List Char)) :=
  let inner := (lineBreak? cs).getD cs
  blockChars quote escapes (inner.length + 1) inner

/-- A text on one line. -/
def line? : List Char → Option (Reading (List Char))
  | '"' :: rest => basicChars (rest.length + 1) rest
  | '\'' :: rest => literalChars rest
  | _ => none

/-- A text. -/
def text? (cs : List Char) : Option (Reading (List Char)) :=
  match cs with
  | '"' :: '"' :: '"' :: rest => block '"' true rest
  | '\'' :: '\'' :: '\'' :: rest => block '\'' false rest
  | cs => line? cs

/-! ### Numbers -/

/-- Further digits, one underscore at most before each. -/
def moreDigits (isDigit : Char → Bool) : List Char → Option (Reading (List Char))
  | [] => some ([], [])
  | ['_'] => none
  | '_' :: c :: rest =>
    if isDigit c then (moreDigits isDigit rest).map fun (ds, last) => (c :: ds, last) else none
  | c :: rest =>
    if isDigit c then (moreDigits isDigit rest).map fun (ds, last) => (c :: ds, last)
    else some ([], c :: rest)

/-- Digits with single underscores between them. -/
def digits? (isDigit : Char → Bool) : List Char → Option (Reading (List Char))
  | c :: rest =>
    if isDigit c then (moreDigits isDigit rest).map fun (ds, last) => (c :: ds, last) else none
  | [] => none

/-- The digits of a whole number: a zero stands alone. -/
def wholeDigits? : List Char → Option (Reading (List Char))
  | '0' :: rest => some (['0'], rest)
  | cs => digits? Char.isDigit cs

/-- A sign and whether it is a minus. -/
def sign : List Char → List Char × List Char
  | '+' :: rest => (['+'], rest)
  | '-' :: rest => (['-'], rest)
  | cs => ([], cs)

/-- The exponent of a number, if there is one. -/
def exponent? : List Char → Option (Reading (List Char))
  | [] => some ([], [])
  | c :: rest =>
    if c = 'e' ∨ c = 'E' then do
      let (s, after) := sign rest
      let (ds, last) ← digits? Char.isDigit after
      some ('e' :: s ++ ds, last)
    else some ([], c :: rest)

/-- The fraction of a number, if there is one. -/
def fraction? : List Char → Option (Reading (List Char))
  | '.' :: rest => (digits? Char.isDigit rest).map fun (ds, last) => ('.' :: ds, last)
  | cs => some ([], cs)

/-- A whole number, if it fits 64 bits. -/
def ofInt? (n : Int) : Option Toml :=
  if -(Nat.pow 2 63) ≤ n ∧ n < Nat.pow 2 63 then some (.integer n) else none

/-- A number in another base, after its mark. -/
def radix? (base : Nat) (cs : List Char) : Option (Reading Toml) := do
  let (ds, last) ← digits? (fun c => (ofRadix? base [c]).isSome) cs
  let v ← ofInt? (← ofRadix? base ds)
  some (v, last)

/-- A word for a number that has no digits. -/
def wordNumber? (negative : Bool) (cs : List Char) : Option (Reading Toml) :=
  match Text.dropStart? cs ['i', 'n', 'f'] with
  | some rest => some (.float (.ofMagnitude negative Double.infinityMagnitude), rest)
  | none => (Text.dropStart? cs ['n', 'a', 'n']).map fun rest => (.float .nan, rest)

/-- A number in base ten. -/
def decimal? (cs : List Char) : Option (Reading Toml) := do
  let (s, unsigned) := sign cs
  match wordNumber? (s == ['-']) unsigned with
  | some found => some found
  | none =>
    let (whole, afterWhole) ← wholeDigits? unsigned
    let (fraction, afterFraction) ← fraction? afterWhole
    let (exponent, last) ← exponent? afterFraction
    if fraction.isEmpty && exponent.isEmpty then
      let n := Decimal.ofDigits whole
      let v ← ofInt? (if s == ['-'] then -(n : Int) else n)
      some (v, last)
    else
      let minus := if s == ['-'] then s else []
      let d ← Decimal.parseDouble? (String.ofList (minus ++ whole ++ fraction ++ exponent))
      if d = .ofMagnitude false Double.infinityMagnitude then none else some (.float d, last)

/-! ### Dates and times -/

/-- A number of a fixed count of digits within bounds. -/
def counter? (count low high : Nat) (cs : List Char) : Option (Reading Nat) :=
  let ds := cs.take count
  let n := Decimal.ofDigits ds
  if ds.length = count ∧ ds.all Char.isDigit ∧ low ≤ n ∧ n ≤ high then some (n, cs.drop count)
  else none

/-- What follows a mark. -/
def mark? (c : Char) (cs : List Char) : Option (List Char) := Text.dropStart? cs [c]

/-- The days of a month. -/
def daysOfMonth (year month : Nat) : Nat :=
  if month = 2 then
    if year % 4 = 0 ∧ (year % 100 ≠ 0 ∨ year % 400 = 0) then 29 else 28
  else if month = 4 ∨ month = 6 ∨ month = 9 ∨ month = 11 then 30
  else 31

/-- What follows a date. -/
def afterDate? (cs : List Char) : Option (List Char) := do
  let (year, rest) ← counter? 4 0 9999 cs
  let (month, rest) ← counter? 2 1 12 (← mark? '-' rest)
  let (_, rest) ← counter? 2 1 (daysOfMonth year month) (← mark? '-' rest)
  some rest

/-- What follows the fraction of a second, if there is one. -/
def afterFraction (cs : List Char) : List Char :=
  match cs with
  | '.' :: rest => if rest.head?.any Char.isDigit then rest.dropWhile Char.isDigit else cs
  | cs => cs

/-- What follows a time of day. A minute can have a sixty-first second. -/
def afterTime? (cs : List Char) : Option (List Char) := do
  let (_, rest) ← counter? 2 0 23 cs
  let (_, rest) ← counter? 2 0 59 (← mark? ':' rest)
  let (_, rest) ← counter? 2 0 60 (← mark? ':' rest)
  some (afterFraction rest)

/-- What follows a distance from standard time. -/
def afterDistance? (cs : List Char) : Option (List Char) := do
  let (_, rest) ← counter? 2 0 23 cs
  let (_, rest) ← counter? 2 0 59 (← mark? ':' rest)
  some rest

/-- What follows a zone, if there is one. -/
def afterZone (cs : List Char) : List Char :=
  match cs with
  | [] => []
  | c :: rest =>
    if c = 'Z' ∨ c = 'z' then rest
    else if c = '+' ∨ c = '-' then (afterDistance? rest).getD cs
    else cs

/-- What follows the time after a date, if there is one. -/
def afterTimeOfDate (cs : List Char) : List Char :=
  match cs with
  | [] => []
  | c :: rest =>
    if c = 'T' ∨ c = 't' ∨ c = ' ' then ((afterTime? rest).map afterZone).getD cs else cs

/-- A date, a time of day, or both. -/
def moment? (cs : List Char) : Option (Reading Toml) :=
  let last := match afterDate? cs with
    | some rest => some (afterTimeOfDate rest)
    | none => afterTime? cs
  last.map fun rest => (.moment (String.ofList (cs.take (cs.length - rest.length))), rest)

/-- A number, a date or a time. -/
def number? (cs : List Char) : Option (Reading Toml) :=
  match moment? cs with
  | some found => some found
  | none =>
    match cs with
    | '0' :: 'x' :: rest => radix? 16 rest
    | '0' :: 'o' :: rest => radix? 8 rest
    | '0' :: 'b' :: rest => radix? 2 rest
    | cs => decimal? cs

/-- A truth value. -/
def boolean? (cs : List Char) : Option (Reading Toml) :=
  match Text.dropStart? cs "true".toList with
  | some rest => some (.boolean true, rest)
  | none => (Text.dropStart? cs "false".toList).map fun rest => (.boolean false, rest)

end Toml

end FlowGraph
