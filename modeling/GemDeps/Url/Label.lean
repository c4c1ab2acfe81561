import GemDeps.Text.Direction
import GemDeps.Text.Joining
import GemDeps.Text.Composition

/-!
# Labels of domains

A domain is made of labels. A label starts with no mark, and has a joiner or a non-joiner only where
letters would be written otherwise without. When a domain has letters written from right to left or
digits that go with these, each label has to have one direction.

* `Url.Label.isWellFormed`: the rules for a label on its own.
* `Url.Label.needsDirection`, `Url.Label.hasOneDirection`: the rules for labels of such domains.
-/

namespace GemDeps.Url.Label

/-! ## Joiners -/

/-- The character that keeps letters from joining. -/
def nonJoiner : Char := '\u200C'

/-- The character that joins letters. -/
def joiner : Char := '\u200D'

/-- The class of the marks that take the vowel from a consonant. -/
def viramaClass : Nat := 9

/-- Does the first character that is not passed over join in one of the given ways? -/
def firstJoins (ways : List Text.Joining) : Text → Bool
  | [] => false
  | c :: t =>
    let j := Text.joining c
    ways.contains j || (j = .transparent && firstJoins ways t)

/-- May a joiner or non-joiner stand between two texts? The first one is given backwards. Both may
follow a virama; a non-joiner may also part letters that would join. -/
def mayStand (c : Char) (before after : Text) : Bool :=
  before.head?.any (Text.combiningClass · = viramaClass) ||
    (c = nonJoiner && firstJoins [.behind, .both] before && firstJoins [.front, .both] after)

/-- Does each joiner and non-joiner stand where it may? `before` stands before the text,
backwards. -/
def joinersMayStand (before : Text) : Text → Bool
  | [] => true
  | c :: t =>
    (!(c = nonJoiner || c = joiner) || mayStand c before t) && joinersMayStand (c :: before) t

/-! ## Labels on their own -/

/-- The largest number of characters of a label that are not all ASCII. -/
def lengthLimit : Nat := 1000

/-- Does a label keep the rules for labels on their own? -/
def isWellFormed (t : Text) : Bool :=
  !t.head?.any Text.isMark && joinersMayStand [] t &&
    (t.all (·.toNat < 0x80) || t.length ≤ lengthLimit)

/-! ## Directions -/

/-- Does a label have characters for whose sake a domain needs directions? -/
def needsDirection (t : Text) : Bool :=
  t.any fun c => Text.direction c = .right || Text.direction c = .arabic

/-- Does a label have one direction, told by its first letter? Marks at its end are passed over.
Digits and characters without direction may not start it; they may stand inside, digits of both
kinds not in the same label, and digits at the end. -/
def hasOneDirection (t : Text) : Bool :=
  let ds := t.map Text.direction
  let last := (ds.reverse.find? (· ≠ .mark)).getD .mark
  match ds with
  | [] => true
  | .left :: _ =>
    !ds.contains .right && !ds.contains .arabic && (last = .left || last = .european)
  | .right :: _ =>
    !ds.contains .left && (last = .right || last = .european || last = .arabic) &&
      !(ds.contains .european && ds.contains .arabic)
  | _ => false

end GemDeps.Url.Label
