import FlowGraph.Number.Double

/-! # Shortest decimal texts

`Shortest.decimal` gives the fewest digits that read back as a finite double, and of the decimals
with that many digits the one nearest to it. A double is read back by every number between the
midpoints to its neighbours; the midpoints themselves belong to it when its significand is even.

Two texts are made from the digits. `Double.plainText` always writes them out without an exponent,
`Double.exponentText` goes over to an exponent from `1e16` up and below `1e-5`. -/

namespace FlowGraph

namespace Shortest

/-- The numbers that read back as a finite double, and the double itself, over one denominator. -/
structure Interval where
  low : Nat
  value : Nat
  high : Nat
  den : Nat
  /-- Whether the two ends belong to the interval. -/
  closed : Bool

/-- The interval of a finite double. At a power of two the neighbour below is half as far away. -/
def interval (d : Double) : Interval :=
  let (m, q) := d.parts
  let (num, den) := Double.scaled 1 (q - 2)
  let below := if m = Nat.pow 2 52 ∧ q ≠ -1074 then 1 else 2
  ⟨(4 * m - below) * num, 4 * m * num, (4 * m + 2) * num, den, m % 2 = 0⟩

/-- Whether `num / den` lies in the interval. -/
def Interval.contains (i : Interval) (num den : Nat) : Bool :=
  if i.closed then i.low * den ≤ num * i.den && num * i.den ≤ i.high * den
  else i.low * den < num * i.den && num * i.den < i.high * den

/-- The count of decimal digits of a natural number. -/
def digitCount (n : Nat) : Nat := (Nat.toDigits 10 n).length

/-- The exponent of the highest power of ten that is at most `num / den`, for a number above 0. -/
def floorLog10 (num den : Nat) : Int :=
  if den ≤ num then (digitCount (num / den) : Int) - 1
  else
    let k := digitCount (den / num)
    if num * Nat.pow 10 (k - 1) ≥ den then -((k : Int) - 1) else -(k : Int)

/-- The two grid points around the value on the grid of the multiples of `10 ^ e`: those in the
interval, the nearer first. -/
def candidate (i : Interval) (e : Int) : Option Nat :=
  let (up, down) := match e with
    | .ofNat n => (1, Nat.pow 10 n)
    | .negSucc n => (Nat.pow 10 (n + 1), 1)
  let n := i.value * up / (i.den * down)
  let r := i.value * up % (i.den * down)
  let lowIn := i.contains (n * down) up
  let highIn := i.contains ((n + 1) * down) up
  if lowIn && highIn then
    if 2 * r < i.den * down then some n
    else if i.den * down < 2 * r then some (n + 1)
    else if n % 2 = 0 then some n else some (n + 1)
  else if lowIn then some n
  else if highIn then some (n + 1)
  else none

/-- The first grid, from coarse to fine, that has a point in the interval. -/
def search (i : Interval) : Nat → Int → Nat × Int
  | 0, e => ((candidate i e).getD 0, e)
  | fuel + 1, e =>
    match candidate i e with
    | some n => (n, e)
    | none => search i fuel (e - 1)

/-- Drops the zeros at the end of a number's digits. -/
def trim : Nat → Nat × Int → Nat × Int
  | 0, p => p
  | fuel + 1, (n, e) => if n ≠ 0 ∧ n % 10 = 0 then trim fuel (n / 10, e + 1) else (n, e)

/-- The digits and the power of ten of a finite double other than zero. -/
def decimal (d : Double) : Nat × Int :=
  let i := interval d
  trim 20 (search i 17 (floorLog10 i.value i.den + 1))

end Shortest

namespace Double

/-- A run of zeros. -/
def zeros (n : Nat) : List Char := List.replicate n '0'

/-- `n * 10 ^ e` written out with a point only where a fraction follows. -/
def plainDigits (n : Nat) (e : Int) : List Char :=
  let digits := (Nat.toDigits 10 n)
  let lead : Int := digits.length + e
  if 0 ≤ e then digits ++ zeros e.toNat
  else if 0 < lead then digits.take lead.toNat ++ '.' :: digits.drop lead.toNat
  else '0' :: '.' :: zeros (-lead).toNat ++ digits

/-- The magnitude with neither sign nor exponent, and without a point in a whole number. -/
def plainMagnitude (d : Double) : List Char :=
  if d.isZero then ['0'] else
    let (n, e) := Shortest.decimal d
    plainDigits n e

/-- The sign of a negative number. -/
def signText (d : Double) : List Char := if d.isNegative then ['-'] else []

/-- The text without an exponent. -/
def plainText (d : Double) : String :=
  if d.isNaN then "NaN"
  else if d.isFinite then String.ofList (d.signText ++ d.plainMagnitude)
  else String.ofList (d.signText ++ "inf".toList)

/-- The exponents of ten of the leading digit that are written without an exponent. -/
def isPlainExponent (lead : Int) : Bool := -5 ≤ lead && lead ≤ 15

/-- The mark and the digits of an exponent, with its sign. -/
def exponentDigits (e : Int) : List Char :=
  'e' :: (if e < 0 then '-' else '+') :: Nat.toDigits 10 e.natAbs

/-- The text of a finite double with an exponent where the number is very large or small. A whole
number keeps `.0`. -/
def exponentText (d : Double) : String :=
  if d.isZero then String.ofList (d.signText ++ "0.0".toList) else
    let (n, e) := Shortest.decimal d
    let digits := Nat.toDigits 10 n
    let lead : Int := digits.length - 1 + e
    String.ofList <| d.signText ++
      if isPlainExponent lead then
        plainDigits n e ++ (if 0 ≤ e then ['.', '0'] else [])
      else match digits with
        | [] => []
        | [c] => c :: exponentDigits lead
        | c :: rest => c :: '.' :: rest ++ exponentDigits lead

end Double

end FlowGraph
