/-! # Blanks

The white space of Unicode, and texts without the blanks at their two ends. -/

namespace FlowGraph

namespace Text

/-- A blank of Unicode. -/
def isBlank (c : Char) : Bool :=
  let n := c.toNat
  (9 ≤ n && n ≤ 13) || n == 0x20 || n == 0x85 || n == 0xA0 || n == 0x1680 ||
    (0x2000 ≤ n && n ≤ 0x200A) || n == 0x2028 || n == 0x2029 || n == 0x202F || n == 0x205F ||
    n == 0x3000

/-- The characters without the blanks at the two ends. -/
def trimChars (cs : List Char) : List Char :=
  ((cs.dropWhile isBlank).reverse.dropWhile isBlank).reverse

/-- The text without the blanks at its two ends. -/
def trim (s : String) : String := String.ofList (trimChars s.toList)

/-- Whether the text holds nothing but blanks. -/
def isBlankText (s : String) : Bool := s.toList.all isBlank

/-- Whether the second list starts the first; if so, what follows it. -/
def dropStart? : List Char → List Char → Option (List Char)
  | cs, [] => some cs
  | c :: cs, p :: ps => if c = p then dropStart? cs ps else none
  | [], _ :: _ => none

/-- Whether the first text starts with the second. -/
def startsWith (s start : String) : Bool := (dropStart? s.toList start.toList).isSome

/-- Whether the first text ends with the second. -/
def endsWith (s ending : String) : Bool :=
  (dropStart? s.toList.reverse ending.toList.reverse).isSome

/-- Whether the second list stands somewhere in the first. -/
def containsChars : List Char → List Char → Bool
  | [], part => part.isEmpty
  | c :: cs, part => (dropStart? (c :: cs) part).isSome || containsChars cs part

/-- Whether the second text stands somewhere in the first. -/
def contains (s part : String) : Bool := containsChars s.toList part.toList

/-- What follows the first place where a mark stands. -/
def after? (mark : List Char) : List Char → Option (List Char)
  | [] => dropStart? [] mark
  | c :: cs => (dropStart? (c :: cs) mark).or (after? mark cs)

/-- The characters before the first `sep`, and those after it if there is one. -/
def splitFirst (sep : Char) : List Char → List Char × Option (List Char)
  | [] => ([], none)
  | c :: cs =>
    if c = sep then ([], some cs)
    else
      let (before, after) := splitFirst sep cs
      (c :: before, after)

/-- The parts between the occurrences of `sep`; there is always one part. -/
def splitAll (sep : Char) : List Char → List (List Char)
  | [] => [[]]
  | c :: cs =>
    if c = sep then [] :: splitAll sep cs
    else match splitAll sep cs with
      | [] => [[c]]
      | part :: parts => (c :: part) :: parts

/-- The texts between the occurrences of `sep`; there is always one. -/
def split (sep : Char) (s : String) : List String := (splitAll sep s.toList).map String.ofList

end Text

end FlowGraph
