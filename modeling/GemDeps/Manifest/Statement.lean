import GemDeps.Code.Arguments
import GemDeps.Code.Comment
import GemDeps.Code.Quoted
import GemDeps.Manifest.Kind

/-!
# Statements

A statement declares one dependency on one line. It is split into the indentation, the keyword up to
the opening quote of the name, the name, and the rest of the line. An edit only ever replaces the
start of the rest.

* `Statement.read?`: the statement on a line.
* `Statement.head`: the line up to and including the quoted name.
* `Statement.arguments`: the arguments after the name.
-/

namespace GemDeps

/-- A line that declares a dependency, split into its parts. -/
structure Statement where
  /-- The blanks at the start of the line. -/
  indent : Text
  /-- The keyword and what follows it up to the quote that opens the name. -/
  keyword : Text
  /-- The object on which a gemspec statement is called. -/
  receiver : Option Text
  /-- The quotes around the name. -/
  quote : QuoteStyle
  name : Text
  /-- The line after the quote that closes the name. -/
  rest : Text
  /-- Do parentheses surround the arguments? -/
  parenthesized : Bool
  /-- Is the dependency declared for development? -/
  development : Bool
  deriving DecidableEq, Repr

/-- What stands between a keyword and its first argument. -/
structure ArgumentOpening where
  /-- Blanks and an optional parenthesis. -/
  text : Text
  parenthesized : Bool
  /-- The text from the first argument on. -/
  rest : Text
  deriving DecidableEq, Repr

namespace ArgumentOpening

/-- Blanks, an optional parenthesis and blanks at the start of a text. -/
def read (t : Text) : ArgumentOpening :=
  match Text.trimStart t with
  | '(' :: r => ⟨Text.indentation t ++ '(' :: Text.indentation r, true, Text.trimStart r⟩
  | r => ⟨Text.indentation t, false, r⟩

end ArgumentOpening

namespace Statement

/-- Is the name written so that it is computed when the manifest runs? -/
def isDynamic (name : Text) : Bool := Text.contains ['#', '{'] name

/-- The statement with a known keyword, if a static name follows. `called` is the keyword without
its argument opening. -/
def finish? (indent called : Text) (receiver : Option Text) (development : Bool)
    (opening : ArgumentOpening) : Option Statement :=
  match Quoted.read? opening.rest with
  | none => none
  | some q =>
    if q.value.isEmpty || isDynamic q.value then none
    else some ⟨indent, called ++ opening.text, receiver, q.style, q.value, q.rest,
      opening.parenthesized, development⟩

/-- The `gem` statement on a line. -/
def readGem? (line : Text) : Option Statement :=
  match "gem".toList.isPrefixOf? (Text.trimStart line) with
  | none => none
  | some r =>
    if Text.wordEnds r then
      finish? (Text.indentation line) "gem".toList none false (ArgumentOpening.read r)
    else none

/-- The `add_dependency` statement on a line. -/
def readDependency? (line : Text) : Option Statement :=
  match dependencyCall? (Text.trimStart line) with
  | none => none
  | some call =>
    finish? (Text.indentation line)
      (call.receiver ++ ".add_".toList ++ call.scope ++ "dependency".toList) (some call.receiver)
      (call.scope == "development_".toList) (ArgumentOpening.read call.rest)

/-- The statement on a line of a manifest of the given kind. -/
def read? : Kind → Text → Option Statement
  | .gemfile, line => readGem? line
  | .gemspec, line => readDependency? line

/-- The line up to and including the quoted name. -/
def head (s : Statement) : Text :=
  s.indent ++ s.keyword ++ s.quote.mark :: (s.name ++ [s.quote.mark])

/-- The arguments after the name, without the closing parenthesis and without a comment. -/
def arguments (s : Statement) : Text :=
  let code := stripComment s.rest
  let inner := if s.parenthesized then (beforeClosingParen? .code 0 code).getD code else code
  match Text.trimStart inner with
  | ',' :: r => r
  | _ => inner

end Statement

end GemDeps
