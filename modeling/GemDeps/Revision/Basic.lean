import GemDeps.Code.Zone

/-!
# Revisions

A revision replaces or inserts lines of a manifest's text and carries all other lines through as
they are.

* `Revision`: the text after an edit, with the lines that the edit wrote.
* `RevisionError`: why an edit cannot be made.
* `Style`: how the new text is to look.
-/

namespace GemDeps

/-- A text after an edit. -/
structure Revision where
  text : Text
  /-- The first line that the edit wrote. -/
  firstLine : Nat
  /-- The first line after those. -/
  endLine : Nat
  deriving DecidableEq, Repr, Inhabited

/-- Why an edit cannot be made. -/
inductive RevisionError
  /-- No line declares the name. -/
  | declarationNotFound (name : Text)
  /-- A line declares the name already. -/
  | alreadyDeclared (name : Text)
  /-- There is no specification block to insert into. -/
  | noSpecificationBlock
  /-- The declaration goes on after its line. -/
  | multiLineDeclaration (name : Text)
  deriving DecidableEq, Repr

namespace RevisionError

/-- The message about an error. -/
def message : RevisionError → Text
  | declarationNotFound name => "no declaration of `".toList ++ name ++ "`".toList
  | alreadyDeclared name => "`".toList ++ name ++ "` is already declared".toList
  | noSpecificationBlock => "no `Gem::Specification.new` block".toList
  | multiLineDeclaration name =>
    "the declaration of `".toList ++ name ++ "` spans several lines".toList

end RevisionError

/-- How the new text of an edit is to look. -/
structure Style where
  /-- The quotes asked for. -/
  quote : Option QuoteStyle
  /-- The quotes to use when nothing else decides. -/
  defaultQuote : QuoteStyle
  /-- One level of indentation. -/
  indent : Text
  deriving DecidableEq, Repr, Inhabited

end GemDeps
