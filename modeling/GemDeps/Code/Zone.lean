import GemDeps.Text.Basic

/-!
# Quotes and zones

A line of code is read character by character. Each position lies in a zone: plain code, inside a
quoted literal, or right after a backslash in one. A quote opens a literal, the same quote closes
it, and the character after a backslash is taken as it stands.

* `QuoteStyle`: the two quotes.
* `Zone.next`: the zone after a character.
* `Zone.run`: the zone after a text.
-/

namespace GemDeps

/-- Which quote surrounds a literal. -/
inductive QuoteStyle
  | single
  | double
  deriving DecidableEq, Repr, Inhabited

namespace QuoteStyle

/-- The quote character. -/
def mark : QuoteStyle → Char
  | single => '\''
  | double => '"'

/-- The style of a quote character. -/
def ofMark? (c : Char) : Option QuoteStyle :=
  if c = '\'' then some single else if c = '"' then some double else none

@[simp] theorem ofMark?_mark (q : QuoteStyle) : ofMark? q.mark = some q := by
  cases q <;> rfl

theorem ofMark?_eq_some_iff {c : Char} {q : QuoteStyle} : ofMark? c = some q ↔ c = q.mark := by
  constructor
  · intro h
    unfold ofMark? at h
    split at h
    · cases h; assumption
    · split at h
      · cases h; assumption
      · simp at h
  · rintro rfl; simp

end QuoteStyle

/-- Where a position of a line lies. -/
inductive Zone
  /-- Outside quotes. -/
  | code
  /-- Inside a literal. -/
  | literal (q : QuoteStyle)
  /-- Inside a literal, right after a backslash. -/
  | escape (q : QuoteStyle)
  deriving DecidableEq, Repr, Inhabited

namespace Zone

/-- Outside quotes? -/
def isCode : Zone → Bool
  | code => true
  | _ => false

/-- The zone after a character. -/
def next : Zone → Char → Zone
  | code, c =>
    match QuoteStyle.ofMark? c with
    | some q => literal q
    | none => code
  | literal q, c => if c = '\\' then escape q else if c = q.mark then code else literal q
  | escape q, _ => literal q

/-- The zone after a text. -/
def run (z : Zone) (t : Text) : Zone := t.foldl next z

end Zone

end GemDeps
