import FlowGraph.Text.CodeSet

/-! # Writing direction of domain names

A name with a letter that is written from right to left must read the same in both directions of
the text around it. `Direction.isReadable` says whether a label of such a name does: all of it runs in
one direction, and it begins and ends with a character that has this direction or is a number. -/

namespace FlowGraph

namespace Domain

/-- How a character takes part in the direction of a text. -/
inductive Direction where
  | leftToRight
  | rightToLeft
  | arabicNumber
  | number
  | mark
  | neutral
  /-- A space or a control. -/
  | other
deriving DecidableEq

namespace Direction

/-- The direction that a word of the table stands for. -/
def ofWord : List Char → Direction
  | ['l'] => leftToRight
  | ['r'] => rightToLeft
  | ['a'] => arabicNumber
  | ['e'] => number
  | ['n'] => mark
  | ['o'] => neutral
  | _ => other

/-- The directions of the characters of names. -/
def table : CodeTable Direction := .ofGaps ofWord
  ["0 o 9 x 5 o e x 5 o f e a o 27 l 1a o 64 l 18 o 1 l 1c1 o 2 l 7 o e l 2 o 1c l 1 o 11 n 71",
    "l 4 o 2 l 7f o 2 l 8b n 8 l ff o 7 n 2d r 1 n 1 r 1 n 2 r 1 n 2 r 1 n 9 r 36 o 2 r 1 o 2 r",
    "1 o 1 r 1 o 2 n b r 30 n 15 a a o 1 a 2 r 3 n 1 r 65 n 8 o 1 n 6 r 2 n 2 o 1 n 4 r 2 e a r",
    "17 n 1 r 1e n 1d r 59 n b r 3a n 9 r 2 o 4 r 3 n 1 r 18 n 4 r 1 n 9 r 1 n 3 r 1 n 7 r 29 n",
    "5 r 39 n 9 r 2a n 39 l 37 n 1 l 1 n 1 l 4 n 8 l 4 n 1 l 3 n f l 2 n 2 l 1d n 1 l 3a n 1 l 4",
    "n 6 l 6 n 1 l 14 n 4 l c o 2 l 7 o 1 l 2 n 5 l 39 n 2 l 3 n 1b l 14 n 2 l 3 n 1 l b n 2 l",
    "39 n 1 l 4 n 8 l 4 n 3 l 12 n 4 l b o 8 l 1 n 8 l 3a n 1 l 2 n 1 l 1 n 6 l 6 n a l b n 4 l",
    "1c n 1 l 3d n 1 l c n 3 l 23 o d n 1 l 3 n 1 l 37 n 1 l 1 n 3 l 5 n 12 l a n 4 l 12 o 7 l 2",
    "n 1 l 3a n 1 l f n 9 l d n 4 l 1a n 2 l 39 n 2 l 4 n 5 l 7 n 1 l 14 n 4 l 1b n 1 l 48 n 5 l",
    "3 n 6 l 59 n 1 l 2 n b o 1 l 7 n 8 l 62 n 1 l 2 n 9 l b n 8 l 48 n 2 l 1b n 1 l 1 n 1 l 1 n",
    "1 o 4 l 33 n e l 1 n 5 l 1 n 2 l 5 n 31 l 8 n 1 l 66 n 4 l 1 n 6 l 1 n 2 l 2 n 2 l 19 n 2 l",
    "4 n 3 l 10 n 4 l d n 1 l 2 n 2 l 6 n 1 l f n 1 l 2bf n 3 l 30 o 10 l 60 o 1 l 29a o 5 l 72",
    "n 3 l 1d n 2 l 1e n e l 12 n e l 37 n 7 l 8 n 1 l 2 n b l 7 o 1 l 1 n 3 l 10 o 20 l 75 n 2",
    "l 22 n 1 l 76 n 3 l 4 n 2 l 9 n 1 l 6 n 7 o 6 l 98 o 22 l 17 n 2 l 2 n 3 l 38 n 1 l 1 n 9 l",
    "1 n 1 l 2 n 8 l 6 n d l 30 n 54 l 30 n 1 l 1 n 5 l 1 n 1 l 5 n 1 l 28 n 9 l c n 2 l 20 n 4",
    "l 2 n 2 l 1 n 3 l 38 n 1 l 1 n 2 l 3 n 1 l 1 n 3 l 3a n 8 l 2 n 5 l 95 n 3 l 1 n d l 1 n 7",
    "l 4 n 1 l 6 n 1 l 3 n 2 l c6 n 41 l 20b o c4 n 34 o 4a l 3c o 1ac l 45 o 1a l 1 o 316 l 1 o",
    "153 l 100 o 330 l b5 o 7 l 3 n 4 l 6 o 7 l 7f n 1 l 60 n 20 o 205 l 3 o 19 l 9 n 4 l 2 o 1",
    "l 6 o 4 l 2 o 4 l 58 n 4 l 3 o 1 l 5a o 1 l c4 o 30 l 1bd0 o 40 l 5690 o 40 l 13d o 3 l 5f",
    "n 4 o 1 n a o 3 l 1d n 2 l 50 n 2 l e o 23 l 65 o 1 l 79 n 1 l 3 n 1 l 4 n 1 l 19 n 2 l 1 o",
    "4 n 4 l 8 o 8 l 34 o c l 44 n a l 12 n 12 l d n 1 l 26 n 8 l 19 n b l 2e n 3 l 30 n 1 l 2 n",
    "4 l 2 n 2 l 27 n 1 l 43 n 6 l 2 n 2 l 2 n b l 3 n 1 l 8 n 1 l 2f n 1 l 33 n 1 l 1 n 3 l 2 n",
    "2 l 5 n 2 l 1 n 1 l 2a n 2 l 8 n b l 69 o 56 l 25 n 1 l 2 n 1 l 4 n 3 l 4f2e n 94 r 11 o",
    "25d n 25 o 2e r 18d l 101 o 1 l 3e o 4d l 3 o 40 l 2d n 83 l 60 n 1 e 1f l 76 n a l 480 r",
    "11f o 1 r e1 n f r 28 n 8 r a5 n 6 r 4e o 7 r 1e4 n c a 1a r 1f n 5 o 1 r f1 a 20 r 2b n 2",
    "r 23 o 2a n 6 r 46 n b r 31 n 4 r 7a l 1 n 1 l 36 n f l b o 14 l a n 1 l 2 n 2 l a n 3 l 31",
    "n 4 l 2 n 2 l 7 n e l 30 n 3 l 24 n 5 l 1 n 9 l 3d n 1 l c n 2 l 34 n 9 l a n 4 l 2 n 1 l",
    "5f n 3 l 2 n 1 l 1 n 2 l 6 n 1 l 2 n 3f l 5f n 1 l 3 n d l 10 n 2 l 39 n 2 l 3 n 1 l 25 n",
    "1a l 3b n 7 l c n 1 l 1 n 1 l 1 n 1 l e n 1f l 38 n 8 l 2 n 3 l 1 n 1 l 17 n 1 l 54 n 6 l 1",
    "n 1 l 4 n 2 l 1 n 2 l ee n 6 l 4 n 2 l 1 n 2 l 1b n 24 l 33 n 8 l 2 n 1 l 1 n 2 l 1f o 20 l",
    "2b n 1 l 1 n 1 l 2 n 6 l 1 n 1 l 65 n 3 l 2 n 4 l 1 n 9 l ff n 9 l 1 n 2 l 100 n 2 l 1 n 1",
    "l 4 n 1 l 90 n 8 l 4 n 1 l 20 n 6 l 2 n 2 l 28 n 6 l 2 n 4 l 8 n 9 l 1 n 6 l 2 n 3 l 2e n d",
    "l 1 n 2 l c6 n 1 l 1 n 3 l 1 n 1 l c9 n e l 54 n 17 l 1 n 7 l 1 n 2 l 1 n 4b l 31 n 15 l 1",
    "n 9 l 40 n 3 l 2 n 1 l 1 n 1 l 15b n 2 l b n 2 l 34 n 8 l 2 n 1 l 1 n 1 l 17 n 56 l 25 o 2a",
    "l 1441 n 1 l 6 n 19 l 2cbe n c l 3 n 3 l 9c0 n 5 l 3b n 7 l 418 n 1 l 3f n 4 l 4f o 1 l 1 n",
    "c l 4cad n 2 l f61 o 300 n 50 l 217 n 3 l 11 n 8 l 2 n 7 l 1e n 4 l 3b o 59 n 3 o 7b l 40 o",
    "60 l 6a0 n 37 l 4 n 32 l 8 n 1 l e n 1 l 16 n 465 l 100 n 100 l 30 n 7 l 177 n 12 l 2c n 4",
    "l f o 1d1 l 1c n 4 l fe n 2 l f3 n 1 l 2 n 1 l 7 n 2 l 5 n 9 l 102 r d0 n 52 r 22 n 7 r 5a5",
    "o 260 l 1d o 3 l 3d o 39 l 7a o da0 l"]

/-- The direction of a character. -/
def ofChar (c : Char) : Direction := (table.value? c.toNat).getD other

/-- Whether a name with such a character has to be readable in both directions. -/
def isStrict : Direction → Bool
  | rightToLeft => true
  | arabicNumber => true
  | _ => false

/-- Whether a label from left to right may have such a character. -/
def inLeftToRight : Direction → Bool
  | leftToRight => true
  | number => true
  | mark => true
  | neutral => true
  | _ => false

/-- Whether a label from right to left may have such a character. -/
def inRightToLeft : Direction → Bool
  | leftToRight => false
  | other => false
  | _ => true

/-- Whether a label from left to right may end with such a character. -/
def endsLeftToRight (d : Direction) : Bool := d == leftToRight || d == number

/-- Whether a label from right to left may end with such a character. -/
def endsRightToLeft (d : Direction) : Bool :=
  d == rightToLeft || d == number || d == arabicNumber

/-- Whether a label is readable in both directions. Marks at its end are passed over. -/
def isReadable (label : List Char) : Bool :=
  match label.map ofChar with
  | [] => true
  | first :: rest =>
    let last? := (rest.reverse.dropWhile (· == mark)).head?
    match first with
    | leftToRight => rest.all inLeftToRight && last?.all endsLeftToRight
    | rightToLeft =>
      rest.all inRightToLeft && last?.all endsRightToLeft &&
        !(rest.contains number && rest.contains arabicNumber)
    | _ => false

end Direction

end Domain

end FlowGraph
