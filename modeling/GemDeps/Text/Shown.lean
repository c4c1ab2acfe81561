import GemDeps.Text.Mark
import GemDeps.Text.Unassigned

/-!
# Texts in messages

Messages show a text between double quotes. Characters that are not seen alone, such as controls,
spaces other than the plain one, and marks that join the character in front, are shown by their
number.

* `Text.shown`: a text as messages show it.
-/

namespace GemDeps.Text

/-- The characters that are not seen alone, unassigned ones and nonspacing marks aside. -/
def hiddenRanges : Ranges := .ofLines [
    "80-A0 AD 600-605 61C 6DD 70F 890-891 8E2 9BE 9D7 B3E B57 BBE BD7 CC0 CC2 CC7-CC8 CCA-CCB",
    "CD5-CD6 D3E D57 DCF DDF 1680 1715 1734 180E 1B35 1B3B 1B3D 1B43-1B44 1BAA 1BF2-1BF3",
    "2000-200F 2028-202F 205F-2064 2066-206F 3000 302E-302F A953 A9C0 E000-F8FF FEFF FF9E-FF9F",
    "FFF9-FFFB 110BD 110CD 111C0 11235 1133E 1134D 11357 113B8 113C2 113C5 113C7-113C9 113CF",
    "114B0 114BD 115AF 116B6 11930 1193D 11F41 13430-1343F 16FF0-16FF1 1BCA0-1BCA3 1D165-1D166",
    "1D16D-1D17A E0001 E0020-E007F F0000-FFFFD 100000-10FFFD"]

/-- Is a character shown by its number? -/
def isHidden (c : Char) : Bool :=
  if c.toNat < 0x80 then c.toNat < 0x20 || c.toNat == 0x7F
  else hiddenRanges.contains c || isUnassigned c || isNonspacingMark c

/-- A character as shown. -/
def shownChar (c : Char) : Text :=
  match c with
  | '"' => ['\\', '"']
  | '\\' => ['\\', '\\']
  | '\n' => ['\\', 'n']
  | '\r' => ['\\', 'r']
  | '\t' => ['\\', 't']
  | '\x00' => ['\\', '0']
  | c => if isHidden c then ['\\', 'u', '{'] ++ hexadecimal c.toNat ++ ['}'] else [c]

/-- A text as messages show it. -/
def shown (t : Text) : Text := '"' :: (t.flatMap shownChar ++ ['"'])

end GemDeps.Text
