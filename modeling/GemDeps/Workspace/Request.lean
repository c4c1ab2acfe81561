import GemDeps.Manifest.Reader
import GemDeps.Revision.Addition
import GemDeps.Revision.Pin
import GemDeps.Workspace.Configuration
import GemDeps.Workspace.Validation

/-!
# Requests

A request names a manifest and what is to be done with it. Its inputs are checked on their own; then
it is a function from the manifest's text to an outcome.

* `Request`: a path and an action.
* `Action.check`: whether the inputs of an action are valid.
* `Action.run`: what an action makes of a manifest's text.
-/

namespace GemDeps

/-- What is to be done with a manifest. -/
inductive Action
  /-- Read it, as the given kind if there is one. -/
  | read (kind : Option Kind)
  /-- Set the version constraint of a gem. -/
  | pin (name version : Text) (operator : Option Operator) (quote : Option QuoteStyle)
  /-- Remove the version constraints of a gem. -/
  | unpin (name : Text)
  /-- Declare a gem in a Gemfile. -/
  | addDeclaration (name : Text) (options : DeclarationOptions) (quote : Option QuoteStyle)
  /-- Declare a dependency in a gemspec. -/
  | addDependency (name : Text) (options : DeclarationOptions) (quote : Option QuoteStyle)
  deriving Repr

/-- An action on the manifest at a path. -/
structure Request where
  /-- The path of the manifest. -/
  path : Path
  /-- What is to be done with it. -/
  action : Action
  deriving Repr

/-- What has become of a manifest. -/
structure Outcome where
  /-- The absolute path of the manifest. -/
  path : Path
  /-- Its text before. -/
  previous : Text
  /-- Its text afterwards. -/
  text : Text
  /-- What has been done, in one sentence. -/
  message : Text
  /-- What has been read, if the action was to read. -/
  document : Option Document := none
  deriving Repr

/-- Has the text of the manifest changed? -/
def Outcome.changed (o : Outcome) : Bool := o.text ≠ o.previous

namespace Action

/-- Are the inputs of an action valid? -/
def check : Action → Except InputError Unit
  | read _ => .ok ()
  | pin name version operator _ => do
    checkGemName name
    checkVersion version operator
  | unpin name => checkGemName name
  | addDeclaration name options _ => checkOptions name options
  | addDependency name options _ => checkOptions name options

/-! ## Messages -/

/-- The message about a manifest that has been read. -/
def readMessage (p : Path) (d : Document) : Text :=
  "Read ".toList ++ Text.decimal d.declarations.length ++ " declarations from ".toList ++ p.text

/-- The message about a gem whose constraint has been set. -/
def pinMessage (p : Path) (name constraint : Text) : Text :=
  "Pinned ".toList ++ name ++ " to ".toList ++ constraint ++ " in ".toList ++ p.text

/-- The message about a gem whose constraints have been removed, or which had none. -/
def unpinMessage (p : Path) (name : Text) (edited : Bool) : Text :=
  if edited then "Unpinned ".toList ++ name ++ " in ".toList ++ p.text
  else name ++ " has no version constraint in ".toList ++ p.text

/-- The message about a gem that has been declared in some groups. -/
def declarationMessage (p : Path) (name : Text) (groups : List Text) : Text :=
  if groups.isEmpty then "Added ".toList ++ name ++ " to ".toList ++ p.text
  else
    "Added ".toList ++ name ++ " to group ".toList ++ Text.join ", ".toList groups ++
      " in ".toList ++ p.text

/-- The message about a dependency that has been declared. -/
def dependencyMessage (p : Path) (name : Text) (development : Bool) : Text :=
  let what := if development then "development dependency ".toList else "dependency ".toList
  "Added ".toList ++ what ++ name ++ " to ".toList ++ p.text

/-! ## Running -/

/-- Is the manifest of the kind that an action is for? -/
def checkKind (p : Path) (text : Text) (expected : Kind) : Except ManifestError Unit :=
  let actual := Kind.resolve p text none
  if actual = expected then .ok () else .error (.wrongKind p expected actual)

/-- A document that knows its path. -/
def readDocument (p : Path) (text : Text) (kind : Option Kind) : Document :=
  { Document.read (Kind.resolve p text kind) text with path := some p }

/-- What an action makes of the text of the manifest at `p`. -/
def run (c : Configuration) (p : Path) (text : Text) : Action → Except ManifestError Outcome
  | read kind =>
    let d := readDocument p text kind
    .ok ⟨p, text, text, readMessage p d, some d⟩
  | pin name version operator quote => do
    let kind := Kind.resolve p text none
    let constraint := versionConstraint version operator
    let r ← (GemDeps.pin text kind name constraint (c.style kind quote)).mapError (.edit p)
    return ⟨p, text, r.text, pinMessage p name constraint, none⟩
  | unpin name => do
    match ← (GemDeps.unpin text (Kind.resolve p text none) name).mapError (.edit p) with
    | some r => return ⟨p, text, r.text, unpinMessage p name true, none⟩
    | none => return ⟨p, text, text, unpinMessage p name false, none⟩
  | addDeclaration name options quote => do
    checkKind p text .gemfile
    let r ← (GemDeps.addDeclaration text name options (c.style .gemfile quote)).mapError (.edit p)
    return ⟨p, text, r.text, declarationMessage p name options.groups, none⟩
  | addDependency name options quote => do
    checkKind p text .gemspec
    let r ← (GemDeps.addDependency text name options (c.style .gemspec quote)).mapError (.edit p)
    return ⟨p, text, r.text, dependencyMessage p name options.isDevelopment, none⟩

end Action

end GemDeps
