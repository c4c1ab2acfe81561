import GemDeps.Text.Decimal
import GemDeps.Text.Hexadecimal

/-!
# TOML numbers, dates and times

* `Toml.isScalar`: is a word a truth value, a number, a date or a time?
-/

namespace GemDeps.Toml

/-! ## Numbers -/

/-- Are there digits, possibly with single underscores between them? -/
def isDigitGroups (isDigit : Char → Bool) (t : Text) : Bool :=
  (t.splitOn '_').all fun g => !g.isEmpty && g.all isDigit

/-- The word without a sign in front. -/
def dropSign : Text → Text
  | '+' :: t => t
  | '-' :: t => t
  | t => t

/-- Is a word a whole number in decimal digits? No zero stands in front of other digits. -/
def isDecimalWord (t : Text) : Bool :=
  let u := dropSign t
  isDigitGroups Char.isDigit u && (u.length = 1 || u.head? ≠ some '0')

/-- The number that decimal digits between underscores write. -/
def groupsValue (t : Text) : Nat := Text.decimalValue (t.filter Char.isDigit)

/-- Are there digits of a base, possibly with single underscores between them, which write a number
of 128 bits at most? -/
def isBasedNumber (base : Nat) (t : Text) : Bool :=
  isDigitGroups (fun _ => true) t &&
    match Text.numberIn? base (t.filter (· ≠ '_')) with
    | some n => n < Nat.pow 2 128
    | none => false

/-- Is a word an integer, and not too large for 128 bits? -/
def isInteger (t : Text) : Bool :=
  match t with
  | '0' :: 'x' :: u => isBasedNumber 16 u
  | '0' :: 'o' :: u => isBasedNumber 8 u
  | '0' :: 'b' :: u => isBasedNumber 2 u
  | _ =>
    isDecimalWord t &&
      if t.head? = some '-' then groupsValue t ≤ Nat.pow 2 127
      else groupsValue t < Nat.pow 2 128

/-- Cuts a word in front of the first character of a kind. -/
def cutAt (p : Char → Bool) (t : Text) : Text × Text :=
  (t.takeWhile (!p ·), t.dropWhile (!p ·))

/-- Is a text nothing, or an exponent? -/
def isExponent : Text → Bool
  | [] => true
  | _ :: u => isDigitGroups Char.isDigit (dropSign u)

/-- The number that an exponent writes; zero if there is none. -/
def exponentValue : Text → Int
  | [] => 0
  | _ :: u => if u.head? = some '-' then -groupsValue u else groupsValue u

/-- The least number too large for a double: half-way from the largest one to the next power of
two. -/
def doubleLimit : Nat := Nat.pow 2 1024 - Nat.pow 2 970

/-- The number of decimal digits of that limit. -/
def doubleLimitDigits : Nat := 309

/-- Is a number in decimal digits, times a power of ten, small enough for a double? -/
def fitsDouble (digits : Text) (exponent : Int) : Bool :=
  let significant := digits.dropWhile (· = '0')
  let size := significant.length + exponent
  significant.isEmpty || size < doubleLimitDigits ||
    size = doubleLimitDigits &&
      Text.decimalValue significant * Nat.pow 10 exponent.toNat <
        doubleLimit * Nat.pow 10 (-exponent).toNat

/-- Is a word a number with a fraction or an exponent that fits a double, or one of the words for
what is no number? -/
def isFloat (t : Text) : Bool :=
  let isE (c : Char) : Bool := c = 'e' || c = 'E'
  let (mantissa, exponent) := cutAt isE t
  let (whole, fraction) := cutAt (· = '.') mantissa
  dropSign t = "inf".toList || dropSign t = "nan".toList ||
    isDecimalWord whole && !(fraction.isEmpty && exponent.isEmpty) &&
      (fraction.isEmpty || isDigitGroups Char.isDigit fraction.tail) && isExponent exponent &&
      fitsDouble ((whole ++ fraction).filter Char.isDigit)
        (exponentValue exponent - (fraction.filter Char.isDigit).length)

/-! ## Dates and times -/

/-- The number that exactly `n` digits write. -/
def fixed? (n : Nat) (t : Text) : Option Nat :=
  if t.length = n ∧ t.all Char.isDigit then some (Text.decimalValue t) else none

/-- Is a year a leap year? -/
def isLeapYear (y : Nat) : Bool := y % 4 = 0 && (y % 100 ≠ 0 || y % 400 = 0)

/-- The number of days in a month. -/
def daysInMonth (y m : Nat) : Nat :=
  if m = 2 then if isLeapYear y then 29 else 28
  else if m = 4 ∨ m = 6 ∨ m = 9 ∨ m = 11 then 30
  else 31

/-- Is a text a date? -/
def isDate (t : Text) : Bool :=
  match t.splitOn '-' with
  | [y, m, d] =>
    match fixed? 4 y, fixed? 2 m, fixed? 2 d with
    | some y, some m, some d => 1 ≤ m && m ≤ 12 && 1 ≤ d && d ≤ daysInMonth y m
    | _, _, _ => false
  | _ => false

/-- Is a text a number of two digits below `n`? -/
def isBelow (n : Nat) (t : Text) : Bool :=
  match fixed? 2 t with
  | some v => v < n
  | none => false

/-- Are there seconds, possibly with a fraction? -/
def isSeconds (t : Text) : Bool :=
  let (whole, rest) := cutAt (· = '.') t
  isBelow 61 whole &&
    match rest with
    | [] => true
    | _ :: u => !u.isEmpty && u.all Char.isDigit

/-- Is a text a time of day? The seconds may be left out. -/
def isTime (t : Text) : Bool :=
  match t.splitOn ':' with
  | [h, m] => isBelow 24 h && isBelow 60 m
  | [h, m, s] => isBelow 24 h && isBelow 60 m && isSeconds s
  | _ => false

/-- Is a text an offset from universal time? -/
def isOffset (t : Text) : Bool :=
  match t with
  | [c] => c = 'Z' || c = 'z'
  | c :: u =>
    (c = '+' || c = '-') &&
      match u.splitOn ':' with
      | [h, m] => isBelow 24 h && isBelow 60 m
      | _ => false
  | [] => false

/-- Is a text a time of day, possibly with an offset? -/
def isTimeWithOffset (t : Text) : Bool :=
  let (time, offset) := cutAt (fun c => c = 'Z' || c = 'z' || c = '+' || c = '-') t
  isTime time && (offset.isEmpty || isOffset offset)

/-- The number of characters of a date. -/
def dateLength : Nat := 10

/-- Is a word a date, a time of day, or both? -/
def isMoment (t : Text) : Bool :=
  isDate t || isTime t ||
    isDate (t.take dateLength) &&
      match t.drop dateLength with
      | c :: u => (c = 'T' || c = 't' || c = ' ') && isTimeWithOffset u
      | [] => false

/-! ## Any of them -/

/-- Is a word a truth value, a number, a date or a time? -/
def isScalar (t : Text) : Bool :=
  t = "true".toList || t = "false".toList || isInteger t || isFloat t || isMoment t

end GemDeps.Toml
