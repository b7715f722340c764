import FlowGraph.Json.Basic
import FlowGraph.Number.Shortest

/-! # JSON texts, written

`Json.compact` has no blanks; `Json.pretty` puts every item on a line of its own, two blanks deeper
than its container, and leaves empty containers on one line. Both escape the quote, the backslash
and the control characters below the blank, and nothing else. -/

namespace FlowGraph

namespace Json

/-- A hexadecimal digit in lower case. -/
def hexDigit (n : Nat) : Char := (Nat.toDigits 16 (n % 16)).headD '0'

/-- A character inside a quoted text. -/
def escapeChar (c : Char) : List Char :=
  if c = '"' then ['\\', '"']
  else if c = '\\' then ['\\', '\\']
  else if c.toNat < 0x20 then
    if c = '\n' then ['\\', 'n']
    else if c = '\r' then ['\\', 'r']
    else if c = '\t' then ['\\', 't']
    else if c.toNat = 8 then ['\\', 'b']
    else if c.toNat = 12 then ['\\', 'f']
    else ['\\', 'u', '0', '0', hexDigit (c.toNat / 16), hexDigit c.toNat]
  else [c]

/-- A text in quotes. -/
def quote (s : String) : String := String.ofList ('"' :: s.toList.flatMap escapeChar ++ ['"'])

/-- A double, or null if it is not finite. -/
def doubleText (d : Double) : String := if d.isFinite then d.exponentText else "null"

/-- The text of a value that is no container. -/
def atomText : Json → String
  | .null => "null"
  | .bool b => if b then "true" else "false"
  | .int n => toString n
  | .float d => doubleText d
  | .str s => quote s
  | .arr _ => ""
  | .obj _ => ""

mutual

/-- The text without blanks. -/
def compact : Json → String
  | .arr items => "[" ++ ",".intercalate (compactItems items) ++ "]"
  | .obj fields => String.singleton '{' ++ ",".intercalate (compactFields fields) ++
      String.singleton '}'
  | j => atomText j

/-- The texts of the items of an array. -/
def compactItems : List Json → List String
  | [] => []
  | j :: rest => compact j :: compactItems rest

/-- The texts of the fields of an object. -/
def compactFields : List (String × Json) → List String
  | [] => []
  | (name, j) :: rest => (quote name ++ ":" ++ compact j) :: compactFields rest

end

/-- A line break and the blanks of a level. -/
def lineBreak (level : Nat) : String := String.ofList ('\n' :: List.replicate (2 * level) ' ')

/-- A container over several lines: its marks, its level and the texts of its parts. -/
def prettyContainer (level : Nat) (first last : Char) (parts : List String) : String :=
  if parts.isEmpty then String.ofList [first, last]
  else String.singleton first ++ lineBreak (level + 1) ++
    ("," ++ lineBreak (level + 1)).intercalate parts ++ lineBreak level ++ String.singleton last

mutual

/-- The text over several lines, for a value at a level. -/
def prettyAt (level : Nat) : Json → String
  | .arr items => prettyContainer level '[' ']' (prettyItems level items)
  | .obj fields => prettyContainer level '{' '}' (prettyFields level fields)
  | j => atomText j

/-- The texts of the items of an array at a level. -/
def prettyItems (level : Nat) : List Json → List String
  | [] => []
  | j :: rest => prettyAt (level + 1) j :: prettyItems level rest

/-- The texts of the fields of an object at a level. -/
def prettyFields (level : Nat) : List (String × Json) → List String
  | [] => []
  | (name, j) :: rest =>
    (quote name ++ ": " ++ prettyAt (level + 1) j) :: prettyFields level rest

end

/-- The text over several lines. -/
def pretty (j : Json) : String := prettyAt 0 j

/-- The text over several lines of an object whose fields keep the given order. -/
def prettyObject (fields : List (String × Json)) : String :=
  prettyContainer 0 '{' '}' (prettyFields 0 fields)

end Json

end FlowGraph
