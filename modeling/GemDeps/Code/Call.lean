import GemDeps.Code.Block

/-!
# Calls

A statement of a manifest is a call: a keyword, its arguments with or without parentheses, and
possibly a `do` that opens a block.

* `Call.read?`: the call that starts with one of some keywords.
-/

namespace GemDeps

/-- A call of a known keyword. -/
structure Call where
  /-- The arguments as written, without parentheses around all of them. -/
  arguments : Text
  /-- Does the call open a block? -/
  opensBlock : Bool
  deriving DecidableEq, Repr

namespace Call

/-- May `t` follow a keyword? -/
def followsKeyword : Text → Bool
  | [] => true
  | c :: _ => c == ' ' || c == '\t' || c == '('

/-- What follows the first of `keywords` that `code` starts with. -/
def afterKeyword? (keywords : List Text) (code : Text) : Option Text :=
  keywords.findSome? fun k => (k.isPrefixOf? code).filter followsKeyword

/-- The arguments without blanks around them and without one pair of parentheses around all. -/
def unwrap (t : Text) : Text := (Text.between? '(' ')' t.trim).getD t.trim

/-- The call in `code` of one of `keywords`. -/
def read? (keywords : List Text) (code : Text) : Option Call :=
  (afterKeyword? keywords code).map fun r =>
    match splitDo? false r with
    | some args => ⟨unwrap args, true⟩
    | none => ⟨unwrap r, false⟩

end Call

end GemDeps
