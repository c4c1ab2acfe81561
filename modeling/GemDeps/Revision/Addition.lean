import GemDeps.Revision.Basic
import GemDeps.Revision.LineBuffer
import GemDeps.Revision.Location
import GemDeps.Spelling.Statement

/-!
# Adding declarations

A gem with groups goes last into the block of exactly these groups, or into a new block at the end
of the file; a gem without groups goes to the end of the file. Blank lines at the end stay at the
end. A dependency of a gemspec goes after the last dependency, or last into the specification block.

* `addDeclaration`: a Gemfile with a gem added.
* `addDependency`: a gemspec with a dependency added.
-/

namespace GemDeps

/-- The text with lines put in front of line `i`. -/
def Revision.ofInsertion (text : Text) (i : Nat) (lines : List Text) : Revision :=
  ⟨((LineBuffer.ofText text).insert i lines).toText, i, i + lines.length⟩

/-! ## Gemfiles -/

/-- The last line that declares a gem. -/
def lastGemLine? (text : Text) : Option Text :=
  (lastDeclarationLine? .gemfile text).map (LineBuffer.ofText text).content

/-- The last line inside a block that declares a gem. -/
def lastGemLineIn? (text : Text) (span : GroupSpan) : Option Text :=
  (((Text.lines text).take span.endLine).drop (span.startLine + 1)).reverse.find? fun l =>
    (Statement.readGem? l).isSome

/-- A gem added as the last line of a block. -/
def addToBlock (text name : Text) (o : DeclarationOptions) (style : Style) (span : GroupSpan) :
    Revision :=
  let q := QuoteStyle.resolve style.quote (lastGemLineIn? text span <|> lastGemLine? text)
    style.defaultQuote
  .ofInsertion text span.endLine [span.indent ++ style.indent ++ gemStatement name o q]

/-- The lines of a new block at the end of a file; `apart` asks for an empty line in front. -/
def newBlock (apart : Bool) (groups : List Text) (indent statement : Text) (q : QuoteStyle) :
    List Text :=
  (if apart then [[]] else []) ++ [groupLine groups q, indent ++ statement, "end".toList]

/-- A gem added at the end of a file, in a block of its own if it has groups. -/
def addAtEnd (text name : Text) (o : DeclarationOptions) (style : Style) : Revision :=
  let q := QuoteStyle.resolve style.quote (lastGemLine? text) style.defaultQuote
  let statement := gemStatement name o q
  let i := (LineBuffer.ofText text).trailingBlankStart
  .ofInsertion text i <|
    if o.groups.isEmpty then [statement] else newBlock (0 < i) o.groups style.indent statement q

/-- A Gemfile with a gem added. -/
def addDeclaration (text name : Text) (o : DeclarationOptions) (style : Style) :
    Except RevisionError Revision :=
  if (declarationLine? .gemfile text name).isSome then .error (.alreadyDeclared name)
  else
    match if o.groups.isEmpty then none else GroupSpan.find? text o.groups with
    | some span => .ok (addToBlock text name o style span)
    | none => .ok (addAtEnd text name o style)

/-! ## Gemspecs -/

/-- The receiver when a gemspec gives no hint. -/
def defaultReceiver : Text := "spec".toList

/-- A dependency added after the line that declares the last one, in its manner. -/
def addAfter (text name : Text) (o : DeclarationOptions) (style : Style) (last : Nat) : Revision :=
  let anchor := (LineBuffer.ofText text).content last
  let s := Statement.readDependency? anchor
  let indent := (s.map (·.indent)).getD []
  let receiver := (s.bind (·.receiver)).getD defaultReceiver
  let q := QuoteStyle.resolve style.quote (some anchor) style.defaultQuote
  .ofInsertion text (last + 1) [indent ++ dependencyStatement receiver name o q]

/-- A dependency added as the last line of the specification block that ends on line `stop`. -/
def addToSpecification (text name : Text) (o : DeclarationOptions) (style : Style)
    (span : SpecificationSpan) (stop : Nat) : Revision :=
  let q := QuoteStyle.resolve style.quote none style.defaultQuote
  let statement := dependencyStatement (span.receiver.getD defaultReceiver) name o q
  let apart := 0 < stop && !(LineBuffer.ofText text).isBlank (stop - 1)
  .ofInsertion text stop <|
    (if apart then [[]] else []) ++ [span.indent ++ style.indent ++ statement]

/-- A gemspec with a dependency added. -/
def addDependency (text name : Text) (o : DeclarationOptions) (style : Style) :
    Except RevisionError Revision :=
  if (declarationLine? .gemspec text name).isSome then .error (.alreadyDeclared name)
  else
    let span := SpecificationSpan.find text
    match span.lastDependencyLine, span.endLine with
    | some last, _ => .ok (addAfter text name o style last)
    | none, some stop => .ok (addToSpecification text name o style span stop)
    | none, none => .error .noSpecificationBlock

end GemDeps
