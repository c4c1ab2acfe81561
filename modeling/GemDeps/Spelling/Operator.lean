import GemDeps.Text.Blank

/-!
# Version operators

* `Operator`: the operators that may stand in front of a version.
* `Operator.ofText?`: the operator that a text spells.
* `versionConstraint`: an operator and a version as one constraint.
-/

namespace GemDeps

/-- The operators that may stand in front of a version. -/
inductive Operator
  /-- At least this version, and below the next one of its second to last number. -/
  | pessimistic
  | atLeast
  | above
  | below
  | atMost
  | exact
  deriving DecidableEq, Repr, Inhabited

namespace Operator

/-- All operators, in the order in which messages list them. -/
def all : List Operator := [pessimistic, atLeast, above, below, atMost, exact]

/-- The operator as written. -/
def text : Operator → Text
  | pessimistic => "~>".toList
  | atLeast => ">=".toList
  | above => ">".toList
  | below => "<".toList
  | atMost => "<=".toList
  | exact => "=".toList

/-- The operator that a text spells exactly. -/
def ofSpelling? (t : Text) : Option Operator := all.find? (·.text = t)

/-- The operator that a text spells, blanks around it aside. -/
def ofText? (t : Text) : Option Operator := ofSpelling? t.trim

/-- The message about a text that spells no operator. -/
def unknownMessage (t : Text) : Text :=
  "unknown operator `".toList ++ t.trim ++ "` (expected one of ~>, >=, >, <, <=, =)".toList

end Operator

/-- A version with its operator, if there is one, in front. -/
def versionConstraint (version : Text) : Option Operator → Text
  | some op => op.text ++ ' ' :: Text.trim version
  | none => Text.trim version

end GemDeps
