import GemDeps.Text.Basic

/-!
# Hexadecimal numerals

* `Text.hexValue?`: the value of a hexadecimal digit of either case.
* `Text.hex4?`: the number that four digits write.
* `Text.numberIn?`: the number that digits of any base up to sixteen write.
* `Text.hexDigit`, `Text.hexadecimal`: a digit, and a number without leading zeros.
-/

namespace GemDeps.Text

/-- The value of a hexadecimal digit. -/
def hexValue? (c : Char) : Option Nat :=
  if '0' ≤ c ∧ c ≤ '9' then some (c.toNat - '0'.toNat)
  else if 'a' ≤ c ∧ c ≤ 'f' then some (c.toNat - 'a'.toNat + 10)
  else if 'A' ≤ c ∧ c ≤ 'F' then some (c.toNat - 'A'.toNat + 10)
  else none

/-- The number that four hexadecimal digits write. -/
def hex4? (a b c d : Char) : Option Nat := do
  return (← hexValue? a) * 4096 + (← hexValue? b) * 256 + (← hexValue? c) * 16 + (← hexValue? d)

/-- The number that digits of a base write; `none` if any character is not one of them. -/
def numberIn? (base : Nat) (t : Text) : Option Nat :=
  t.foldlM (fun n c => ((hexValue? c).filter (· < base)).map (base * n + ·)) 0

/-- The hexadecimal digit for a number below sixteen. -/
def hexDigit (n : Nat) : Char :=
  if n < 10 then Char.ofNat ('0'.toNat + n) else Char.ofNat ('a'.toNat + (n - 10))

/-- A number in hexadecimal digits, without leading zeros. -/
def hexadecimal (n : Nat) : Text :=
  if n < 16 then [hexDigit n] else hexadecimal (n / 16) ++ [hexDigit (n % 16)]

end GemDeps.Text
