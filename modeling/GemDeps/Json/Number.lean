import GemDeps.Json.Basic
import GemDeps.Number.Shortest

/-!
# JSON numbers

A number without fraction and exponent that fits into 64 bits is an integer; any other number is a
double. Digits are gathered into a significand of 64 bits as long as they fit; further ones only
count for the exponent.

* `Json.Number.read?`: the number that is written; `none` if it is too large for a double.
* `Json.Number.text`: a number as messages show it.
-/

namespace GemDeps.Json

/-- A number. -/
inductive Number
  | integer (n : Int)
  | double (f : Float)
  deriving Repr, Inhabited

namespace Number

/-! ## Gathering digits -/

/-- The digits so far: a significand below 2^64, a power of ten, and whether a digit of the current
run did not fit. -/
structure Gathered where
  significand : Nat := 0
  /-- The power of ten. -/
  exponent : Int := 0
  /-- Has a digit been left out? -/
  full : Bool := false
  deriving DecidableEq, Repr

/-- The value of a digit. -/
def digitValue (c : Char) : Nat := c.toNat - '0'.toNat

/-- Does the digit not fit into the significand? -/
def Gathered.overflows (g : Gathered) (c : Char) : Bool :=
  Nat.pow 2 64 ≤ 10 * g.significand + digitValue c

/-- One more digit before the point. -/
def Gathered.addWhole (g : Gathered) (c : Char) : Gathered :=
  if g.full || g.overflows c then { g with exponent := g.exponent + 1, full := true }
  else { g with significand := 10 * g.significand + digitValue c }

/-- One more digit after the point. -/
def Gathered.addFraction (g : Gathered) (c : Char) : Gathered :=
  if g.full || g.overflows c then { g with full := true }
  else { g with significand := 10 * g.significand + digitValue c, exponent := g.exponent - 1 }

/-! ## Doubles -/

/-- The largest power of ten that is a double. -/
def largestPower : Nat := 308

/-- The largest exponent that is taken as written. -/
def largestExponent : Int := Nat.pow 2 31 - 1

/-- A power of ten up to the largest one. -/
def powerOfTen (n : Nat) : Float := Float.ofScientific 1 false n

/-- A double divided by ten to the `n`, in steps of the largest power. -/
def divideByPower (f : Float) (n : Nat) : Float :=
  if n ≤ largestPower then f / powerOfTen n
  else if f == 0 then f
  else divideByPower (f / powerOfTen largestPower) (n - largestPower)
termination_by n
decreasing_by simp_all [largestPower]; omega

/-- A significand times a power of ten as a double, if it is not too large. -/
def scale? (significand : Nat) (exponent : Int) : Option Float :=
  let f := (UInt64.ofNat significand).toFloat
  if exponent < 0 then some (divideByPower f (-exponent).toNat)
  else if exponent.toNat ≤ largestPower then
    let g := f * powerOfTen exponent.toNat
    if g.isInf then none else some g
  else if significand = 0 then some f
  else none

/-- The double for gathered digits and the exponent that follows them. -/
def double? (g : Gathered) (negativeExponent : Bool) (exponent : Nat) : Option Float :=
  if largestExponent < exponent then
    if g.significand ≠ 0 ∧ !negativeExponent then none else some 0
  else
    scale? g.significand
      (if negativeExponent then g.exponent - exponent else g.exponent + exponent)

/-! ## Reading -/

/-- An integer as a number. Below the 64-bit integers, and for a signed zero, it is a double. -/
def ofWhole (negative : Bool) (n : Nat) : Number :=
  if !negative then .integer n
  else if n = 0 ∨ Nat.pow 2 63 < n then .double (-(UInt64.ofNat n).toFloat)
  else .integer (-n)

/-- The number in a text that is written as one. -/
def read? (t : Text) : Option Number :=
  let negative := t.head? = some '-'
  let t := if negative then t.drop 1 else t
  let whole := (t.takeWhile Char.isDigit).foldl Gathered.addWhole {}
  match t.dropWhile Char.isDigit with
  | [] =>
    if whole.full then (double? whole false 0).map fun f => .double (if negative then -f else f)
    else some (ofWhole negative whole.significand)
  | c :: u =>
    let digits := if c = '.' then u.takeWhile Char.isDigit else []
    let exponent := if c = '.' then (u.dropWhile Char.isDigit).drop 1 else u
    let g := digits.foldl Gathered.addFraction { whole with full := false }
    let value := Text.decimalValue (exponent.filter Char.isDigit)
    (double? g (exponent.head? = some '-') value).map fun f => .double (if negative then -f else f)

/-! ## Messages -/

/-- A number as messages show it. -/
def text : Number → Text
  | integer n => (if n < 0 then ['-'] else []) ++ Text.decimal n.natAbs
  | double f => Number.doubleText f

end Number

end GemDeps.Json
