import GemDeps.Text.Basic

/-!
# Decimal numerals

* `Text.decimal`: a natural number in decimal digits.
* `Text.decimalValue`: the number that digits write.
* `decimalValue_decimal`: writing and reading back gives the number.
-/

namespace GemDeps.Text

/-- The digit for a number below ten. -/
def digit (n : Nat) : Char := Char.ofNat ('0'.toNat + n)

/-- A number in decimal digits, without leading zeros. -/
def decimal (n : Nat) : Text :=
  if n < 10 then [digit n] else decimal (n / 10) ++ [digit (n % 10)]

/-- The number that decimal digits write. -/
def decimalValue (t : Text) : Nat := t.foldl (fun n c => 10 * n + (c.toNat - '0'.toNat)) 0

theorem digit_toNat {n : Nat} (h : n < 10) : (digit n).toNat - '0'.toNat = n := by
  have : ∀ m : Fin 10, (digit m.val).toNat - '0'.toNat = m.val := by decide
  exact this ⟨n, h⟩

theorem decimalValue_concat (t : Text) (c : Char) :
    decimalValue (t ++ [c]) = 10 * decimalValue t + (c.toNat - '0'.toNat) := by
  simp [decimalValue]

theorem decimalValue_decimal (n : Nat) : decimalValue (decimal n) = n := by
  fun_induction decimal n with
  | case1 n h => simpa [decimalValue] using digit_toNat h
  | case2 n h ih =>
    rw [decimalValue_concat, ih, digit_toNat (Nat.mod_lt n (by omega))]
    omega

end GemDeps.Text
