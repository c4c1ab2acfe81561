import GemDeps.Manifest.Document
import GemDeps.Manifest.Statement
import GemDeps.Manifest.Version
import GemDeps.Text.Lines

/-!
# Reading a gemspec

Each line of a gemspec is read on its own: it declares a dependency, sets the required version of
the language, or says nothing that is read.

* `requiredVersion?`: the requirement that a line sets.
* `Gemspec.read`: the document of a gemspec.
-/

namespace GemDeps

namespace Gemspec

/-- What a line assigns to `required_ruby_version`: the text after the equals sign, if any. -/
def versionAssignment? (code : Text) : Option Text :=
  match Text.trimStart code with
  | [] => none
  | c :: t =>
    if Text.startsIdentifier c then
      match ".required_ruby_version".toList.isPrefixOf? (t.dropWhile Text.isWord) with
      | none => none
      | some r =>
        match Text.trimStart r with
        | '=' :: value => if value.isEmpty then none else some value
        | _ => none
    else none

/-- The requirement on the language that a line's code sets: the strings in the assigned value. -/
def requiredVersion? (code : Text) : Option (Option Text) :=
  (versionAssignment? code).map fun value => joinVersions (Quoted.all value)

/-- The declaration that a statement on line `line` makes. -/
def declaration (line : Nat) (stmt : Statement) : Declaration :=
  { name := stmt.name
    versionRequirement := joinVersions (leadingVersions (splitArguments stmt.arguments)).1
    source := none
    groups := if stmt.development then [developmentGroup] else []
    platforms := []
    requireOption := none
    line := .ofNat line }

/-- The declarations on the lines from number `line` on, and the language version after them when it
was `version` before. -/
def readLines (version : Option Text) (line : Nat) : List Text → List Declaration × Option Text
  | [] => ([], version)
  | l :: ls =>
    match Statement.readDependency? l with
    | some stmt =>
      let r := readLines version (line + 1) ls
      (declaration line stmt :: r.1, r.2)
    | none => readLines ((requiredVersion? (stripComment l)).getD version) (line + 1) ls

/-- The document of a gemspec. -/
def read (text : Text) : Document :=
  let (declarations, languageVersion) := readLines none 0 (Text.lines text)
  { kind := .gemspec, path := none, languageVersion, defaultSource := none, declarations }

end Gemspec

end GemDeps
