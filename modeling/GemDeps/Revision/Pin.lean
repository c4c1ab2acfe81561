import GemDeps.Revision.Basic
import GemDeps.Revision.LineBuffer
import GemDeps.Revision.Location
import GemDeps.Revision.VersionArguments
import GemDeps.Spelling.Quote

/-!
# Pinning

Pinning writes one version constraint after the name of a declared gem, in place of those it has;
unpinning removes them. Only the line of the first declaration of the name changes, and all that
follows the constraints on it is kept.

* `pin`: the text with a gem's constraint set.
* `unpin`: the text with a gem's constraints removed, or `none` if it has none.
-/

namespace GemDeps

/-- Does the code of a line go on on the next line? -/
def continues (line : Text) : Bool :=
  match (Text.trimEnd (stripComment line)).getLast? with
  | some c => c == ',' || c == '\\'
  | none => false

/-- The line that declares `name`, as its number and its statement. A declaration that goes on after
its line is refused. -/
def declarationToEdit (kind : Kind) (text name : Text) :
    Except RevisionError (Nat × Text × Statement) :=
  match declarationLine? kind text name with
  | none => .error (.declarationNotFound name)
  | some i =>
    let line := (LineBuffer.ofText text).content i
    match Statement.read? kind line with
    | none => .error (.declarationNotFound name)
    | some s => if continues line then .error (.multiLineDeclaration name) else .ok (i, line, s)

/-- The text with line `i` replaced. -/
def Revision.ofLine (text : Text) (i : Nat) (line : Text) : Revision :=
  ⟨((LineBuffer.ofText text).replace i line).toText, i, i + 1⟩

/-- The start of a statement up to its name, in quotes of style `q`. Quotes that are right already
are left as they are. -/
def Statement.headIn (s : Statement) (q : QuoteStyle) : Text :=
  if s.quote = q then s.head else s.indent ++ s.keyword ++ q.wrap s.name

/-- The line of a statement with its version constraint set. -/
def Statement.pinned (s : Statement) (constraint : Text) (q : QuoteStyle) : Text :=
  s.headIn q ++ ", ".toList ++ q.wrap constraint ++ dropVersionArguments s.rest

/-- The line of a statement without version constraints. -/
def Statement.unpinned (s : Statement) : Text := s.head ++ dropVersionArguments s.rest

/-- The text with the version constraint of `name` set. -/
def pin (text : Text) (kind : Kind) (name constraint : Text) (style : Style) :
    Except RevisionError Revision := do
  let (i, line, s) ← declarationToEdit kind text name
  let q := QuoteStyle.resolve style.quote (some line) style.defaultQuote
  return .ofLine text i (s.pinned constraint q)

/-- The text without the version constraints of `name`; `none` if it has none. -/
def unpin (text : Text) (kind : Kind) (name : Text) : Except RevisionError (Option Revision) := do
  let (i, _, s) ← declarationToEdit kind text name
  if hasVersionArgument s.rest then return some (.ofLine text i s.unpinned) else return none

end GemDeps
