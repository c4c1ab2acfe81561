import GemDeps.Text.Hexadecimal

/-!
# Tables of characters

A property of characters is given by a table of character numbers. A table is written as lines of
items with single spaces between them; numbers are in hexadecimal digits.

* `Ranges.ofLines`: the ranges that the items of a table write.
* `Ranges.contains`: is a character in one of the ranges?
* `labelled`: the items of a table in which each stands for a value.
-/

namespace GemDeps.Text

/-! ## Items -/

/-- The items of a table. -/
def tableItems (lines : List String) : List Text :=
  lines.flatMap fun line => line.toList.splitOn ' '

/-- The number that an item writes. -/
def tableNumber (item : Text) : Nat := (numberIn? 16 item).getD 0

/-- The range that an item writes: one number, or the first and the last with a hyphen between. -/
def tableRange (item : Text) : Nat × Nat :=
  match item.splitOn '-' with
  | [first, last] => (tableNumber first, tableNumber last)
  | _ => (tableNumber item, tableNumber item)

/-- The items of a table in which each stands for a value: what stands before the mark, and what
stands behind it. -/
def labelled (mark : Char) (lines : List String) : List (Text × Text) :=
  (tableItems lines).map fun item =>
    (item.takeWhile (· ≠ mark), (item.dropWhile (· ≠ mark)).drop 1)

/-! ## Ranges -/

/-- Inclusive ranges of character numbers. -/
abbrev Ranges := List (Nat × Nat)

namespace Ranges

/-- The ranges that the items of a table write. -/
def ofLines (lines : List String) : Ranges := (tableItems lines).map tableRange

/-- Is a character in one of the ranges? -/
def contains (rs : Ranges) (c : Char) : Bool := rs.any fun r => r.1 ≤ c.toNat && c.toNat ≤ r.2

end Ranges

end GemDeps.Text
