import GemDeps.Code.Block
import GemDeps.Files.Path

/-!
# Manifest kinds

Dependencies are kept in two kinds of file: a Gemfile, one `gem` statement per dependency, and a
gemspec, one block with an `add_dependency` statement per dependency.

* `dependencyCall?`: the `add_dependency` call at the start of a text.
* `Kind.detect?`: the kind that a file's name tells.
* `Kind.sniff`: the kind that a file's content tells.
* `Kind.resolve`: the kind of a file, by request, name and content in this order.
-/

namespace GemDeps

/-- The two kinds of manifest. -/
inductive Kind
  /-- A list of `gem` statements. -/
  | gemfile
  | gemspec
  deriving DecidableEq, Repr, Inhabited

/-! ## Marks of a gemspec -/

/-- The call `receiver.add_dependency` at the start of a text. -/
structure DependencyCall where
  /-- The object that is called. -/
  receiver : Text
  /-- The word between `add_` and `dependency`. -/
  scope : Text
  /-- The text after the method's name. -/
  rest : Text
  deriving DecidableEq, Repr

/-- The scopes that a dependency call may name. -/
def dependencyScopes : List Text := ["runtime_".toList, "development_".toList, []]

/-- The `add_dependency` call at the start of a text. -/
def dependencyCall? (t : Text) : Option DependencyCall :=
  match t with
  | [] => none
  | c :: r =>
    if Text.startsIdentifier c then
      match ".add_".toList.isPrefixOf? (r.dropWhile Text.isWord) with
      | none => none
      | some s =>
        dependencyScopes.findSome? fun scope =>
          match (scope ++ "dependency".toList).isPrefixOf? s with
          | some u =>
            if Text.wordEnds u then some ⟨c :: r.takeWhile Text.isWord, scope, u⟩ else none
          | none => none
    else none

/-- The name of the class whose block is a specification, with the method that makes one. -/
def specificationCall : Text := "Gem::Specification.new".toList

/-- Does a line mark its file as a gemspec? -/
def marksGemspec (line : Text) : Bool :=
  let body := Text.trimStart line
  startsWithWord specificationCall body || (dependencyCall? body).isSome

namespace Kind

/-- The kind of a file with this content; a Gemfile unless a line marks it as a gemspec. -/
def sniff (text : Text) : Kind :=
  if (text.splitOn '\n').any marksGemspec then gemspec else gemfile

/-- The kind that a file's name tells. -/
def ofFileName? (name : Text) : Option Kind :=
  if Text.endsWith ".gemspec".toList name then some gemspec
  else if name = "Gemfile".toList || name = "gems.rb".toList ||
      Text.endsWith ".gemfile".toList name ||
      ("Gemfile.".toList.isPrefixOf name && name ≠ "Gemfile.lock".toList) then some gemfile
  else none

/-- The kind that the last component of a path tells. -/
def detect? (path : Path) : Option Kind := path.fileName?.bind ofFileName?

/-- The kind of a file: the one asked for, else the one its name tells, else the one its content
tells. -/
def resolve (path : Path) (text : Text) (hint : Option Kind) : Kind :=
  (hint <|> detect? path).getD (sniff text)

/-- The kind as messages name it. -/
def label : Kind → Text
  | gemfile => "Gemfile".toList
  | gemspec => "gemspec".toList

end Kind

end GemDeps
