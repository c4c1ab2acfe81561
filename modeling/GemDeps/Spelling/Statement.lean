import GemDeps.Manifest.Document
import GemDeps.Spelling.Operator
import GemDeps.Spelling.Origin
import GemDeps.Spelling.Quote

/-!
# Writing statements

How a declaration is spelled, without indentation. The parts of a statement come in a fixed order,
name, version, platforms, source, require, separated by a comma and a space; absent parts are left
out.

* `DeclarationOptions`: everything about a declaration except its name.
* `gemStatement`, `dependencyStatement`: a declaration as a line of a Gemfile or a gemspec.
* `groupLine`: the line that opens a `group` block.
-/

namespace GemDeps

/-- Everything about a declaration to be written, except its name. -/
structure DeclarationOptions where
  /-- The version, possibly with an operator of its own. -/
  version : Option Text
  /-- The operator to put in front of the version. -/
  operator : Option Operator
  /-- The groups to add the gem to. -/
  groups : List Text
  /-- The platforms to restrict the gem to. -/
  platforms : List Text
  /-- A repository, a directory or a server. -/
  source : Option Text
  /-- What to load. -/
  require : Option RequireOption
  deriving DecidableEq, Repr, Inhabited

namespace DeclarationOptions

/-- No options. -/
def none : DeclarationOptions := ⟨.none, .none, [], [], .none, .none⟩

/-- The version constraint, if there is a version. -/
def constraint? (o : DeclarationOptions) : Option Text :=
  o.version.map fun v => versionConstraint v o.operator

/-- Is the gem to be declared for development? -/
def isDevelopment (o : DeclarationOptions) : Bool := o.groups.contains developmentGroup

end DeclarationOptions

/-! ## Parts -/

/-- A name as a symbol, quoted unless it is an identifier. -/
def symbolText (name : Text) (q : QuoteStyle) : Text :=
  if Text.isIdentifier name then ':' :: name else ':' :: q.wrap name

/-- Parts separated by a comma and a space. -/
def commaSeparated (parts : List Text) : Text := Text.join ", ".toList parts

/-- The option that names the platforms. -/
def platformsPart (names : List Text) (q : QuoteStyle) : List Text :=
  match names with
  | [] => []
  | [name] => ["platforms: ".toList ++ symbolText name q]
  | names => ["platforms: [".toList ++ commaSeparated (names.map (symbolText · q)) ++ [']']]

/-- The option that names the source. -/
def sourcePart (source : Text) (q : QuoteStyle) : Text :=
  (Origin.ofSource source).key ++ ": ".toList ++ q.wrap source

/-- The option that says what to load. -/
def requirePart (r : RequireOption) (q : QuoteStyle) : Text :=
  match r with
  | .disabled => "require: false".toList
  | .path p => "require: ".toList ++ q.wrap p

/-! ## Lines -/

/-- A declaration as a line of a Gemfile. Groups are named by the block around it. -/
def gemStatement (name : Text) (o : DeclarationOptions) (q : QuoteStyle) : Text :=
  commaSeparated <| ["gem ".toList ++ q.wrap name] ++ (o.constraint?.map q.wrap).toList ++
    platformsPart o.platforms q ++ (o.source.map (sourcePart · q)).toList ++
    (o.require.map (requirePart · q)).toList

/-- A declaration as a line of a gemspec. -/
def dependencyStatement (receiver name : Text) (o : DeclarationOptions) (q : QuoteStyle) : Text :=
  let method :=
    if o.isDevelopment then ".add_development_dependency ".toList else ".add_dependency ".toList
  commaSeparated <| [receiver ++ method ++ q.wrap name] ++ (o.constraint?.map q.wrap).toList

/-- The line that opens a block for the given groups. -/
def groupLine (groups : List Text) (q : QuoteStyle) : Text :=
  "group ".toList ++ commaSeparated (groups.map (symbolText · q)) ++ " do".toList

end GemDeps
