/-! # Codes of labels

A label with characters beyond ASCII is written by its code: its ASCII characters, and the places and
code points of the others as numbers of a variable length, the lowest code point first.

* `Domain.encodeLabel` writes the code of a label.
* `Domain.decodeLabel?` reads it. -/

namespace FlowGraph

namespace Domain

/-! ### Numbers -/

def base : Nat := 36
def lowestThreshold : Nat := 1
def highestThreshold : Nat := 26
def skew : Nat := 38
def firstBias : Nat := 72
def firstCode : Nat := 128

/-- The digit of a value below the base. -/
def digit (n : Nat) : Char :=
  if n < 26 then Char.ofNat ('a'.toNat + n) else Char.ofNat ('0'.toNat + (n - 26))

/-- Divides a difference until it is small; the count of divisions times the base is added. -/
def reduceDelta : Nat → Nat → Nat → Nat
  | 0, k, delta => k + base * delta / (delta + skew)
  | fuel + 1, k, delta =>
    if delta > ((base - lowestThreshold) * highestThreshold) / 2 then
      reduceDelta fuel (k + base) (delta / (base - lowestThreshold))
    else k + (base - lowestThreshold + 1) * delta / (delta + skew)

/-- The bias after a difference was written. -/
def adapt (delta count : Nat) (first : Bool) : Nat :=
  let d := if first then delta / 700 else delta / 2
  reduceDelta 32 0 (d + d / count)

/-- The least digit at a place that is not the last of its number. -/
def threshold (bias k : Nat) : Nat :=
  if k ≤ bias then lowestThreshold
  else if k ≥ bias + highestThreshold then highestThreshold else k - bias

/-- A number as digits of a variable length. -/
def variableDigits (bias : Nat) : Nat → Nat → Nat → List Char
  | 0, _, _ => []
  | fuel + 1, k, q =>
    let t := threshold bias k
    if q < t then [digit q]
    else digit (t + (q - t) % (base - t)) :: variableDigits bias fuel (k + base) ((q - t) / (base - t))

/-! ### Writing -/

/-- Where the code of a label has got to. -/
structure Progress where
  delta : Nat
  bias : Nat
  /-- The characters handled so far. -/
  handled : Nat
  /-- The digits written so far. -/
  written : List Char

/-- Goes over a character while the code points equal to `code` are written. -/
def passChar (asciiCount code : Nat) (p : Progress) (c : Char) : Progress :=
  if c.toNat < code then { p with delta := p.delta + 1 }
  else if c.toNat = code then
    { delta := 0
      bias := adapt p.delta (p.handled + 1) (p.handled == asciiCount)
      handled := p.handled + 1
      written := p.written ++ variableDigits p.bias 32 base p.delta }
  else p

/-- Writes the code points that are at least `code`, from the lowest up. -/
def passCodes (cs : List Char) (asciiCount : Nat) : Nat → Nat → Progress → List Char
  | 0, _, p => p.written
  | fuel + 1, code, p =>
    match ((cs.map Char.toNat).filter (code ≤ ·)).min? with
    | none => p.written
    | some next =>
      let start := { p with delta := p.delta + (next - code) * (p.handled + 1) }
      let done := cs.foldl (passChar asciiCount next) start
      passCodes cs asciiCount fuel (next + 1) { done with delta := done.delta + 1 }

/-- The code of a label. -/
def encodeLabel (cs : List Char) : List Char :=
  let ascii := cs.filter (·.toNat < 0x80)
  let start := if ascii.isEmpty then [] else ascii ++ ['-']
  start ++ passCodes cs ascii.length (cs.length + 1) firstCode ⟨0, firstBias, ascii.length, []⟩

/-! ### Reading -/

/-- The value of a digit. -/
def digitValue? (c : Char) : Option Nat :=
  if 'a' ≤ c ∧ c ≤ 'z' then some (c.toNat - 'a'.toNat)
  else if c.isDigit then some (c.toNat - '0'.toNat + 26)
  else none

/-- Reads a number of a variable length, times its weight, and adds it to `n`. -/
def readNumber (bias : Nat) : Nat → Nat → Nat → List Char → Option (Nat × List Char)
  | _, _, _, [] => none
  | k, weight, n, c :: cs => do
    let d ← digitValue? c
    let t := threshold bias k
    if d < t then some (n + d * weight, cs)
    else readNumber bias (k + base) (weight * (base - t)) (n + d * weight) cs

/-- Puts the characters that a code gives into those found so far. `code` is the lowest code point
that may come next, `i` the place after the last one, and zero at the start. -/
def readCodes : Nat → Nat → Nat → Nat → List Char → List Char → Option (List Char)
  | _, _, _, _, found, [] => some found
  | 0, _, _, _, _, _ => none
  | fuel + 1, code, i, bias, found, cs => do
    let (j, rest) ← readNumber bias base 1 i cs
    let count := found.length + 1
    let next := code + j / count
    if next.isValidChar then
      readCodes fuel next (j % count + 1) (adapt (j - i) count (i == 0))
        (found.insertIdx (j % count) (Char.ofNat next)) rest
    else none

/-- The label that a code stands for. The last dash ends the ASCII characters, if there are any. -/
def decodeLabel? (cs : List Char) : Option (List Char) :=
  let back := cs.reverse.takeWhile (· != '-')
  let ascii := cs.take (cs.length - back.length - 1)
  let numbers := if ascii.isEmpty then cs else back.reverse
  readCodes numbers.length firstCode 0 firstBias ascii numbers

end Domain

end FlowGraph
