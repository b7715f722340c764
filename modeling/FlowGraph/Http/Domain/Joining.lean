import FlowGraph.Text.Marks

/-! # Joiners in domain names

Two characters that do not show tell whether letters are joined. They are allowed where they make a
difference: after a mark that takes the vowel from a consonant, and the one that parts letters also
between two letters that would join. -/

namespace FlowGraph

namespace Domain

/-- How a character joins those beside it. -/
inductive Joining where
  | both
  /-- It joins the character on its left, which follows it in a text from right to left. -/
  | left
  | right
  /-- It lets the characters around it join. -/
  | transparent
  | none
deriving DecidableEq

namespace Joining

/-- The value that a word of the table stands for. -/
def ofWord : List Char → Joining
  | ['d'] => both
  | ['l'] => left
  | ['r'] => right
  | ['t'] => transparent
  | _ => none

/-- How the characters of names join. -/
def table : CodeTable Joining := .ofGaps ofWord
  ["0 u 300 t 71 u 112 t 8 u 106 t 2d u 1 t 1 u 1 t 2 u 1 t 2 u 1 t 9 u 40 t b u 5 d 1 u 1 r 4",
    "d 1 r 1 d 1 r 1 d 5 r 4 d d u 1 d 7 r 1 d 2 t 15 u e d 2 t 1 r 3 u 5 d f r 12 d 26 r 1 d 2",
    "r 9 d 1 r 1 d 1 r 1 d 2 r 2 u 1 r 1 t 8 u 1 t 6 u 2 t 2 u 1 t 4 r 2 u a d 3 u 2 d 1 u 10 r",
    "1 t 1 d 3 r 5 d 4 r 1 d 9 r 1 d 1 r 1 d 1 r 1 d 2 r 1 t 1d r 1 d b r 3 d f r 2 d 4 r 1 d 1",
    "r 2 d 3 r 2 d 6 u 26 t b u 19 d 21 t 9 u 9 t 1 u 18 t 4 u 1 t 9 u 1 t 3 u 1 t 7 u 10 r 1 d",
    "5 r 2 d 1 r 1 d a r 1 d 1 r 3 t 5 u 2 d 1 u 1 d 4 u 1 r 1 d 1 r 1a u 3 d 1 u 2 d 5 r 1 d 8",
    "t 9 d a r 3 u 1 r 1 d 2 r 2 d 6 r 1 d f u 1 t 39 u 37 t 1 u 1 t 1 u 4 t 8 u 4 t 1 u 3 t f u",
    "2 t 2 u 1d t 1 u 3a t 1 u 4 t 6 u 6 t 1 u 14 t 4 u 18 t 5 u 39 t 2 u 3 t 1b u 14 t 2 u 3 t",
    "1 u b t 2 u 39 t 1 u 4 t 8 u 4 t 3 u 12 t 4 u 14 t 8 u 3a t 1 u 2 t 1 u 1 t 6 u 6 t a u b t",
    "4 u 1c t 1 u 3d t 1 u c t 3 u 30 t 1 u 3 t 1 u 37 t 1 u 1 t 3 u 5 t 12 u a t 4 u 1b t 1 u",
    "3a t 1 u 2 t 1 u 6 t 1 u 5 t 9 u d t 4 u 1a t 2 u 39 t 2 u 4 t 5 u 7 t 1 u 14 t 4 u 1b t 1",
    "u 48 t 5 u 3 t 6 u 59 t 1 u 2 t b u 8 t 8 u 62 t 1 u 2 t 9 u b t 8 u 48 t 2 u 1b t 1 u 1 t",
    "1 u 1 t 1 u 37 t e u 1 t 5 u 1 t 2 u 5 t 31 u 8 t 1 u 66 t 4 u 1 t 6 u 1 t 2 u 2 t 2 u 19 t",
    "2 u 4 t 3 u 10 t 4 u d t 1 u 2 t 2 u 6 t 1 u f t 1 u 2bf t 3 u 3b2 t 3 u 1d t 2 u 1e t e u",
    "12 t e u 37 t 7 u 8 t 1 u 2 t b u 9 t 3 u 27 d 1 u 18 d 60 u 5 t 2 d 22 t 1 d 6 u 70 t 3 u",
    "4 t 2 u 9 t 1 u 6 t 7 u d7 t 2 u 2 t 3 u 38 t 1 u 1 t 9 u 1 t 1 u 2 t 8 u 6 t d u 30 t 54 u",
    "30 t 1 u 1 t 5 u 1 t 1 u 5 t 1 u 28 t 9 u c t 2 u 20 t 4 u 2 t 2 u 1 t 3 u 38 t 1 u 1 t 2 u",
    "3 t 1 u 1 t 3 u 3a t 8 u 2 t 5 u 95 t 3 u 1 t d u 1 t 7 u 4 t 1 u 6 t 1 u 3 t 2 u c6 t 41 u",
    "2cf t 34 u beb t 4 u 8c t 1 u 60 t 20 u 22a t 4 u 6b t 4 u 75d2 t 4 u 1 t a u 20 t 2 u 50 t",
    "2 u 110 t 1 u 3 t 1 u 4 t 1 u 19 t 2 u 5 t 4 u 10 d 32 l 1 u 51 t a u 12 t 12 u d t 1 u 26",
    "t 8 u 19 t b u 2e t 3 u 30 t 1 u 2 t 4 u 2 t 2 u 27 t 1 u 43 t 6 u 2 t 2 u 2 t b u 3 t 1 u",
    "8 t 1 u 2f t 1 u 33 t 1 u 1 t 3 u 2 t 2 u 5 t 2 u 1 t 1 u 2a t 2 u 8 t b u e4 t 1 u 2 t 1 u",
    "4 t 3 u 4f2e t 94 u 26e t 25 u 3b8 t 83 u 60 t 1 u 95 t a u 681 t f u 28 t 8 u 80 d 5 r 1 u",
    "1 r 1 u 1 r 2 u 2 l 1 r 5 d 4 l 1 d 5 r 1 d 3 r 1 u 2 r 1 t 6 d 4 r 1 u 90 d 1 r 1 d 1 r 3",
    "d 3 r 1 d 2 r 1 d 1 r 2 d 1 r 8 u 10 r 4 d 2 u 151 l 1 d 21 r 1 d 1 t c u 39 t 5 u 13d t 2",
    "u 15 r 1 d 2 u 1 d a u 2a t 6 u 30 d 3 r 1 d 11 u 1 t b d 3 r 1 u 1b d 4 r 2 d c t 4 u 2a d",
    "1 u 1 d 2 r 3 u 1 d 1 r 2 d 2 r 1 d 2 u 1 d 1 r 2 d 1 u 4 r 1 d 1 l 15 u 21 t 1 u 36 t f u",
    "29 t 1 u 2 t 2 u a t 3 u 31 t 4 u 2 t 2 u 7 t e u 30 t 3 u 24 t 5 u 1 t 9 u 3d t 1 u c t 2",
    "u 34 t 9 u a t 4 u 2 t 1 u 5f t 3 u 2 t 1 u 1 t 2 u 6 t 1 u 2 t 3f u 5f t 1 u 3 t d u 10 t",
    "2 u 39 t 2 u 3 t 1 u 25 t 1a u 3b t 7 u c t 1 u 1 t 1 u 1 t 1 u e t 1f u 38 t 8 u 2 t 3 u 1",
    "t 1 u 17 t 1 u 54 t 6 u 1 t 1 u 4 t 2 u 1 t 2 u ee t 6 u 4 t 2 u 1 t 2 u 1b t 24 u 33 t 8 u",
    "2 t 1 u 1 t 2 u 6a t 1 u 1 t 1 u 2 t 6 u 1 t 1 u 65 t 1 u 1 t 1 u 2 t 4 u 1 t 9 u ff t 9 u",
    "1 t 2 u 100 t 2 u 1 t 1 u 4 t 1 u 90 t 8 u 4 t 1 u 20 t a u 28 t 6 u 2 t 4 u 8 t 9 u 1 t 6",
    "u 2 t 3 u 2e t d u 1 t 2 u c6 t 1 u 1 t 3 u 1 t 1 u c9 t e u 1 t 1 u 52 t 17 u 1 t 7 u 1 t",
    "2 u 1 t 4b u 31 t 15 u 1 t 9 u 40 t 3 u 2 t 1 u 1 t 1 u 15b t 2 u b t 2 u 34 t 8 u 2 t 1 u",
    "1 t 1 u 17 t 56 u 1490 t 1 u 6 t 19 u 2cbe t c u 3 t 3 u 9c0 t 5 u 3b t 7 u 418 t 1 u 3f t",
    "4 u 51 t c u 4cad t 2 u 1261 t 50 u 217 t 3 u 11 t 8 u 2 t 7 u 1e t 4 u 94 t 3 u 7bb t 37 u",
    "4 t 32 u 8 t 1 u e t 1 u 16 t 465 u 100 t 100 u 30 t 7 u 177 t 12 u 2c t 4 u 1fc t 4 u fe t",
    "2 u f3 t 1 u 2 t 1 u 7 t 2 u 5 t 9 u 1d2 t 52 d 22 t c u"]

/-- How a character joins. -/
def ofChar (c : Char) : Joining := (table.value? c.toNat).getD none

/-- Whether the first of some characters that is not transparent joins as asked for. -/
def finds (wanted : Joining) (cs : List Char) : Bool :=
  match (cs.map ofChar).dropWhile (· == transparent) with
  | [] => false
  | j :: _ => j == wanted || j == both

/-- The character that parts letters. -/
def nonJoiner : Char := Char.ofNat 0x200C

/-- The character that joins letters. -/
def joiner : Char := Char.ofNat 0x200D

/-- Whether the joiners of a label are allowed, given the characters before it from the last. -/
def areAllowed : List Char → List Char → Bool
  | _, [] => true
  | before, c :: after =>
    let afterVirama := before.head?.any fun b => Text.combiningClass b == Text.viramaClass
    let allowed :=
      if c = nonJoiner then afterVirama || (finds left before && finds right after)
      else if c = joiner then afterVirama
      else true
    allowed && areAllowed (c :: before) after

end Joining

end Domain

end FlowGraph
