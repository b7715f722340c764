import FlowGraph.Number.Double

/-! # Decimal texts

A decimal text is a run of digits with at most one point and an optional exponent. Its value is
`digits * 10 ^ exponent`, and `Decimal.toDouble` is the double nearest to it.

* `Decimal.readDigits` splits the digits off the front of a text.
* `Decimal.parseDouble?` reads a whole text as a double; besides decimals it takes `inf`,
  `infinity` and `nan` in any letter case. -/

namespace FlowGraph

/-- The number `digits * 10 ^ exponent`. -/
structure Decimal where
  digits : Nat
  exponent : Int
deriving DecidableEq

namespace Decimal

/-- The value of a decimal digit. -/
def digitValue (c : Char) : Nat := c.toNat - '0'.toNat

/-- The number a run of digits stands for. -/
def ofDigits (cs : List Char) : Nat := cs.foldl (fun n c => 10 * n + digitValue c) 0

/-- The digits at the front and what follows them. -/
def readDigits (cs : List Char) : List Char × List Char :=
  (cs.takeWhile Char.isDigit, cs.dropWhile Char.isDigit)

/-- Above this exponent of ten every number but zero is infinite as a double. -/
def highest : Int := 310

/-- Below this exponent of ten every number is zero as a double. -/
def lowest : Int := -400

/-- The double nearest to a decimal. -/
def toDouble (negative : Bool) (d : Decimal) : Double :=
  if d.digits = 0 then Double.ofMagnitude negative 0
  else if d.exponent > highest then Double.ofMagnitude negative Double.infinityMagnitude
  else if (Nat.log2 d.digits / 3 + 1 : Nat) + d.exponent < lowest then
    Double.ofMagnitude negative 0
  else match d.exponent with
    | .ofNat n => Double.ofRatio negative (d.digits * Nat.pow 10 n) 1
    | .negSucc n => Double.ofRatio negative d.digits (Nat.pow 10 (n + 1))

/-- A sign at the front: whether it is a minus, and what follows it. -/
def readSign : List Char → Bool × List Char
  | '-' :: cs => (true, cs)
  | '+' :: cs => (false, cs)
  | cs => (false, cs)

/-- The exponent part of a decimal text, which must end the text. -/
def readExponent? : List Char → Option Int
  | [] => some 0
  | c :: cs =>
    if c = 'e' ∨ c = 'E' then
      let (negative, ds) := readSign cs
      if ds.isEmpty || !ds.all Char.isDigit then none
      else some (if negative then -(ofDigits ds : Int) else ofDigits ds)
    else none

/-- The point and the digits after it, if there are any, and what follows them. -/
def readFraction : List Char → List Char × List Char
  | '.' :: cs => readDigits cs
  | cs => ([], cs)

/-- A decimal without a sign: digits on at least one side of the point. -/
def parse? (cs : List Char) : Option Decimal :=
  let (whole, afterWhole) := readDigits cs
  let (fraction, afterFraction) := readFraction afterWhole
  if whole.isEmpty && fraction.isEmpty then none
  else (readExponent? afterFraction).map fun e =>
    ⟨ofDigits (whole ++ fraction), e - fraction.length⟩

/-- A whole text as a double. -/
def parseDouble? (text : String) : Option Double :=
  let (negative, cs) := readSign text.toList
  let word := String.ofList (cs.map Char.toLower)
  if word = "inf" ∨ word = "infinity" then
    some (Double.ofMagnitude negative Double.infinityMagnitude)
  else if word = "nan" then some Double.nan
  else (parse? cs).map (toDouble negative)

end Decimal

/-- An unsigned number below `limit` in decimal digits, with an optional plus sign. -/
def parseUnsigned? (limit : Nat) (text : String) : Option Nat :=
  let digits := match text.toList with
    | '+' :: cs => cs
    | cs => cs
  if digits.isEmpty || !digits.all Char.isDigit then none
  else
    let n := Decimal.ofDigits digits
    if n < limit then some n else none

end FlowGraph
