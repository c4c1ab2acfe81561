import GemDeps.Text.Basic

/-!
# Blanks

The characters with the Unicode property White_Space, and the texts without them at either end.

* `isBlank`: the property, twenty-five characters in all.
* `trimStart`, `trimEnd`, `trim`: a text without the blanks at its start, its end, or both.
* `words`: the maximal runs free of blanks.
-/

namespace GemDeps.Text

/-- The characters with the property White_Space. -/
def isBlank (c : Char) : Bool :=
  let n := c.toNat
  (9 ≤ n && n ≤ 13) || n == 0x20 || n == 0x85 || n == 0xA0 || n == 0x1680 ||
    (0x2000 ≤ n && n ≤ 0x200A) || n == 0x2028 || n == 0x2029 || n == 0x202F || n == 0x205F ||
    n == 0x3000

/-- The text without its trailing characters in `p`. -/
def dropEndWhile (p : Char → Bool) (t : Text) : Text := (t.reverse.dropWhile p).reverse

/-- The text without its leading blanks. -/
def trimStart (t : Text) : Text := t.dropWhile isBlank

/-- The text without its trailing blanks. -/
def trimEnd (t : Text) : Text := dropEndWhile isBlank t

/-- The text without the blanks at its ends. -/
def trim (t : Text) : Text := trimEnd (trimStart t)

/-- The leading blanks. -/
def indentation (t : Text) : Text := t.takeWhile isBlank

/-- The maximal runs free of blanks, in order. -/
def words (t : Text) : List Text := (t.splitOnP isBlank).filter (!·.isEmpty)

/-! ## Lengths -/

theorem indentation_append_trimStart (t : Text) : indentation t ++ trimStart t = t :=
  List.takeWhile_append_dropWhile

theorem length_trimStart_le (t : Text) : (trimStart t).length ≤ t.length := by
  conv => rhs; rw [← indentation_append_trimStart t]
  simp

theorem length_dropEndWhile_le (p : Char → Bool) (t : Text) :
    (dropEndWhile p t).length ≤ t.length := by
  simpa [dropEndWhile] using (List.dropWhile_sublist (l := t.reverse) p).length_le

theorem length_trim_le (t : Text) : (trim t).length ≤ t.length :=
  Nat.le_trans (length_dropEndWhile_le _ _) (length_trimStart_le t)

end GemDeps.Text
