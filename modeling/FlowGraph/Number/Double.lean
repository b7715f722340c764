/-! # Doubles

A double-precision number is kept as its 64 bits. All that the library needs of it is exact: the
order (`Double.key`, the sign and the magnitude as one integer), the value of a finite double as a
ratio of natural numbers, and the double nearest to such a ratio, a tie going to the even
neighbour.

* `Double.ofRatio` rounds a ratio to the nearest double; from `0x7FF…` on the result is infinite.
* `Double.eq` and `Double.lt` compare as numbers: zero equals its negative, and a double that is
  not a number equals and precedes nothing. -/

namespace FlowGraph

/-- A double-precision number, given by its bits. -/
structure Double where
  bits : UInt64
deriving DecidableEq

/-- `num / den` as the nearest integer, a tie going to the even one. -/
def divNearestEven (num den : Nat) : Nat :=
  let q := num / den
  let r := num % den
  if 2 * r < den then q
  else if den < 2 * r then q + 1
  else if q % 2 = 0 then q else q + 1

namespace Double

/-! ### The fields -/

/-- The bit of the sign. -/
def signBit : Nat := Nat.pow 2 63

/-- The magnitude of infinity: all exponent bits set. -/
def infinityMagnitude : Nat := 0x7FF * Nat.pow 2 52

/-- The bits below the sign. -/
def magnitude (d : Double) : Nat := d.bits.toNat % signBit

/-- Whether the sign bit is set. -/
def isNegative (d : Double) : Bool := signBit ≤ d.bits.toNat

/-- Whether the bits stand for no number. -/
def isNaN (d : Double) : Bool := infinityMagnitude < d.magnitude

/-- Whether the bits stand for a finite number. -/
def isFinite (d : Double) : Bool := d.magnitude < infinityMagnitude

/-- The double of a sign and a magnitude below `2 ^ 63`. -/
def ofMagnitude (negative : Bool) (magnitude : Nat) : Double :=
  ⟨UInt64.ofNat (if negative then signBit + magnitude else magnitude)⟩

def zero : Double := ofMagnitude false 0
def one : Double := ofMagnitude false 0x3FF0000000000000
def infinity : Double := ofMagnitude false infinityMagnitude
def nan : Double := ofMagnitude false (infinityMagnitude + Nat.pow 2 51)

/-- The double of the opposite sign. -/
def neg (d : Double) : Double := ofMagnitude (!d.isNegative) d.magnitude

/-! ### Order -/

/-- The sign and the magnitude as one integer; doubles that are numbers are ordered by it. -/
def key (d : Double) : Int := if d.isNegative then -(d.magnitude : Int) else d.magnitude

/-- Equality of numbers. -/
def eq (a b : Double) : Bool := !a.isNaN && !b.isNaN && a.key == b.key

/-- The strict order of numbers. -/
def lt (a b : Double) : Bool := !a.isNaN && !b.isNaN && a.key < b.key

/-- The order of numbers. -/
def le (a b : Double) : Bool := !a.isNaN && !b.isNaN && a.key ≤ b.key

/-- Whether the double is a zero of either sign. -/
def isZero (d : Double) : Bool := d.magnitude == 0

/-! ### Exact values -/

/-- The significand and the power of two whose product is the magnitude of a finite double. -/
def parts (d : Double) : Nat × Int :=
  let field : Nat := d.magnitude / Nat.pow 2 52
  if field = 0 then (d.magnitude, -1074)
  else (Nat.pow 2 52 + d.magnitude % Nat.pow 2 52, (field : Int) - 1075)

/-- `m * 2 ^ q` as a numerator and a denominator. -/
def scaled (m : Nat) (q : Int) : Nat × Nat :=
  match q with
  | .ofNat n => (m * Nat.pow 2 n, 1)
  | .negSucc n => (m, Nat.pow 2 (n + 1))

/-- The magnitude of a finite double as a numerator and a denominator. -/
def ratio (d : Double) : Nat × Nat := scaled d.parts.1 d.parts.2

/-- The exponent of the highest power of two that is at most `num / den`. -/
def floorLog2 (num den : Nat) : Int :=
  let k : Int := (num.log2 : Int) - (den.log2 : Int)
  let (a, b) := match k with
    | .ofNat n => (num, den * Nat.pow 2 n)
    | .negSucc n => (num * Nat.pow 2 (n + 1), den)
  if a < b then k - 1 else k

/-- The magnitude of the double nearest to `num / den`. -/
def nearestMagnitude (num den : Nat) : Nat :=
  if num = 0 then 0
  else
    let q : Int := max (floorLog2 num den - 52) (-1074)
    let m := match q with
      | .ofNat n => divNearestEven num (den * Nat.pow 2 n)
      | .negSucc n => divNearestEven (num * Nat.pow 2 (n + 1)) den
    min ((q + 1074).toNat * Nat.pow 2 52 + m) infinityMagnitude

/-- The double nearest to `num / den`, with the given sign. -/
def ofRatio (negative : Bool) (num den : Nat) : Double :=
  ofMagnitude negative (nearestMagnitude num den)

/-- The double nearest to an integer. -/
def ofInt (n : Int) : Double := ofRatio (n < 0) n.natAbs 1

/-- The double nearest to the product of two finite doubles. -/
def mul (a b : Double) : Double :=
  let (m, q) := a.parts
  let (n, r) := b.parts
  let (num, den) := scaled (m * n) (q + r)
  ofRatio (a.isNegative != b.isNegative) num den

/-- The double nearest to the quotient of two finite doubles, the second not zero. -/
def div (a b : Double) : Double :=
  let (m, q) := a.parts
  let (n, r) := b.parts
  let (num, den) := scaled m (q - r)
  ofRatio (a.isNegative != b.isNegative) num (den * n)

/-- The integer part of a finite double that is not negative, at most `limit`. A double that is not
a number gives zero, infinity gives the limit. -/
def toNatWithin (limit : Nat) (d : Double) : Nat :=
  if d.isNaN || d.isNegative then 0
  else if d.isFinite then min (d.ratio.1 / d.ratio.2) limit
  else limit

end Double

end FlowGraph
