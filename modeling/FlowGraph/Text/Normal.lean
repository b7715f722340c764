import FlowGraph.Text.Composite
import FlowGraph.Text.Marks

/-! # Composed texts

Texts that look the same may differ in the order of marks, and in whether a letter and its marks are
one character or several. `Text.composed` gives them one form: the characters are taken apart, the
marks after each letter are put in the order of their classes, and each mark that has a composite
with its letter is joined to it again. -/

namespace FlowGraph

namespace Text

/-! ### Syllables of Hangul -/

namespace Hangul

def firstSyllable : Nat := 0xAC00
def firstLead : Nat := 0x1100
def firstVowel : Nat := 0x1161
/-- The code point before the first tail, which stands for no tail. -/
def noTail : Nat := 0x11A7
def leads : Nat := 19
def vowels : Nat := 21
def tails : Nat := 28

/-- The parts of a syllable. -/
def parts? (n : Nat) : Option (List Nat) :=
  if firstSyllable ≤ n ∧ n < firstSyllable + leads * vowels * tails then
    let i := n - firstSyllable
    let lead := firstLead + i / (vowels * tails)
    let vowel := firstVowel + i / tails % vowels
    some (if i % tails = 0 then [lead, vowel] else [lead, vowel, noTail + i % tails])
  else none

/-- The syllable of two parts: a lead and a vowel, or a syllable without a tail and a tail. -/
def ofParts? (a b : Nat) : Option Nat :=
  if firstLead ≤ a ∧ a < firstLead + leads ∧ firstVowel ≤ b ∧ b < firstVowel + vowels then
    some (firstSyllable + ((a - firstLead) * vowels + (b - firstVowel)) * tails)
  else if firstSyllable ≤ a ∧ a < firstSyllable + leads * vowels * tails ∧
      (a - firstSyllable) % tails = 0 ∧ noTail < b ∧ b < noTail + tails then
    some (a + (b - noTail))
  else none

end Hangul

/-! ### Taking apart -/

/-- How often the first part of a composite may be a composite again. -/
def compositeDepth : Nat := 4

/-- The code points that a code point stands for. -/
def partsOf : Nat → Nat → List Nat
  | 0, n => [n]
  | depth + 1, n =>
    match Hangul.parts? n, Composite.ofCode? n with
    | some ns, _ => ns
    | none, some k => partsOf depth k.first ++ [k.second]
    | none, none => [n]

/-- The characters that a character stands for. -/
def decomposed (c : Char) : List Char :=
  if c.toNat < 0x80 then [c] else (partsOf compositeDepth c.toNat).map Char.ofNat

/-- Puts the marks of a text in order. `marks` are those after the last character that is none. -/
def ordered (marks : List Char) : List Char → List Char
  | [] => marks.mergeSort fun a b => combiningClass a ≤ combiningClass b
  | c :: cs =>
    if combiningClass c = 0 then
      (marks.mergeSort fun a b => combiningClass a ≤ combiningClass b) ++ c :: ordered [] cs
    else ordered (marks ++ [c]) cs

/-! ### Joining -/

/-- The composite of two characters. -/
def composite? (a b : Char) : Option Char :=
  ((Hangul.ofParts? a.toNat b.toNat).or
    ((Composite.ofParts? a.toNat b.toNat).map (·.code))).map Char.ofNat

/-- Joins marks to the character `base` before them. `kept` are those that stay behind it, from the
last; one of them that is of the class of a mark or a later one keeps the mark from `base`. -/
def joined (base : Char) (kept : List Char) : List Char → List Char
  | [] => base :: kept.reverse
  | c :: cs =>
    let reaches := kept.head?.all fun k => combiningClass k < combiningClass c
    match if reaches then composite? base c else none with
    | some both => joined both kept cs
    | none =>
      if combiningClass c = 0 then base :: kept.reverse ++ joined c [] cs
      else joined base (c :: kept) cs

/-- Joins the marks of a text. Those before the first character that is none stay. -/
def rejoined : List Char → List Char
  | [] => []
  | c :: cs => if combiningClass c = 0 then joined c [] cs else c :: rejoined cs

/-- The composed form of a text. -/
def composed (cs : List Char) : List Char :=
  if cs.all (·.toNat < 0x80) then cs else rejoined (ordered [] (cs.flatMap decomposed))

end Text

end FlowGraph
