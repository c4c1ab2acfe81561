import GemDeps.Text.Decimal

/-!
# The shortest decimal for a double

A finite double stands for all reals that round to it. Of the decimals among them the ones with the
fewest digits are taken, and of those the nearest to the double.

* `Number.Rounding`: a positive double with the interval of reals that round to it, in exact
  numbers.
* `Number.shortest`: the shortest decimal, as digits and an exponent.
* `Number.doubleText`: a double as text: with a point for moderate exponents, else scientific.
-/

namespace GemDeps.Number

/-! ## Doubles as exact numbers -/

/-- A positive double is `value / unit`, and the reals that round to it lie between `low / unit` and
`high / unit`. -/
structure Rounding where
  /-- The double. -/
  value : Nat
  /-- The lower end of the interval. -/
  low : Nat
  /-- The upper end of the interval. -/
  high : Nat
  /-- What all three are divided by. -/
  unit : Nat
  /-- Do the ends round to the double? -/
  closed : Bool
  deriving Repr

/-- The double with these bits, its sign aside. The interval reaches half-way to either neighbour;
below a power of two the lower neighbour is nearer. -/
def Rounding.ofBits (bits : Nat) : Rounding :=
  let fraction := bits % Nat.pow 2 52
  let biased := bits / Nat.pow 2 52 % Nat.pow 2 11
  let m := if biased = 0 then fraction else Nat.pow 2 52 + fraction
  let e := if biased = 0 then 1 else biased
  let scale := Nat.pow 2 (e - 1077)
  ⟨4 * m * scale, (if fraction = 0 ∧ 1 < biased then 4 * m - 1 else 4 * m - 2) * scale,
    (4 * m + 2) * scale, Nat.pow 2 (1077 - e), m % 2 = 0⟩

/-! ## The shortest decimal -/

/-- A decimal: digits, read as a whole number, times a power of ten. -/
structure Decimal where
  digits : Nat
  /-- The power of ten. -/
  exponent : Int
  deriving DecidableEq, Repr

/-- The power of ten of the first digit of a double. -/
def Rounding.magnitude (r : Rounding) : Int :=
  ((Text.decimal (r.value * Nat.pow 10 400 / r.unit)).length : Int) - 401

/-- Does the decimal `c` times ten to the `k` round to the double, and how far is it from it, in a
unit that depends on `k` alone? -/
def Rounding.distance? (r : Rounding) (k : Int) (c : Nat) : Option Nat :=
  let up := Nat.pow 10 (-k).toNat
  let point := c * r.unit * Nat.pow 10 k.toNat
  let inside :=
    if r.closed then r.low * up ≤ point ∧ point ≤ r.high * up
    else r.low * up < point ∧ point < r.high * up
  if inside then some (max point (r.value * up) - min point (r.value * up)) else none

/-- The better of the double's two neighbours among the multiples of ten to the `k`, if either
rounds to it. Of two at the same distance the even one is better. -/
def Rounding.onGrid? (r : Rounding) (k : Int) : Option Nat :=
  let c := r.value * Nat.pow 10 (-k).toNat / (r.unit * Nat.pow 10 k.toNat)
  match r.distance? k c, r.distance? k (c + 1) with
  | some a, some b => some (if a < b ∨ (a = b ∧ c % 2 = 0) then c else c + 1)
  | some _, none => some c
  | none, some _ => some (c + 1)
  | none, none => none

/-- The first grid, of `n` digits or more, that has a decimal for the double. -/
def Rounding.search (r : Rounding) (n : Nat) : Nat → Decimal
  | 0 => ⟨0, 0⟩
  | fuel + 1 =>
    let k := r.magnitude - n + 1
    match r.onGrid? k with
    | some c => ⟨c, k⟩
    | none => r.search (n + 1) fuel

/-- A decimal without zeros at its end. -/
def Decimal.trim (d : Decimal) : Nat → Decimal
  | 0 => d
  | fuel + 1 =>
    if d.digits % 10 = 0 ∧ d.digits ≠ 0 then Decimal.trim ⟨d.digits / 10, d.exponent + 1⟩ fuel
    else d

/-- The shortest decimal that rounds to a double; seventeen digits always do. -/
def shortest (r : Rounding) : Decimal := (r.search 1 17).trim 17

/-! ## Text -/

/-- The decimal exponents from and up to which a double is written without an exponent. -/
def plainExponents : Int × Int := (-5, 15)

/-- A decimal as text: digits and a point, or one digit before the point and an exponent with its
sign. -/
def Decimal.text (d : Decimal) : Text :=
  let digits := Text.decimal d.digits
  let leading := d.exponent + digits.length - 1
  let zeros (n : Int) : Text := List.replicate n.toNat '0'
  if plainExponents.1 ≤ leading ∧ leading ≤ plainExponents.2 then
    if 0 ≤ d.exponent then digits ++ zeros d.exponent ++ ".0".toList
    else if 0 ≤ leading then
      digits.take (leading.toNat + 1) ++ '.' :: digits.drop (leading.toNat + 1)
    else "0.".toList ++ zeros (-leading - 1) ++ digits
  else
    let rest := digits.drop 1
    digits.take 1 ++ (if rest.isEmpty then [] else '.' :: rest) ++
      (if leading < 0 then "e-".toList else "e+".toList) ++ Text.decimal leading.natAbs

/-- A finite double as text. -/
def doubleText (f : Float) : Text :=
  let bits := f.toBits.toNat
  let magnitude := bits % Nat.pow 2 63
  (if magnitude < bits then ['-'] else []) ++
    if magnitude = 0 then "0.0".toList else (shortest (.ofBits magnitude)).text

end GemDeps.Number
