import GemDeps.Json.Fields
import GemDeps.Json.Parser
import GemDeps.Json.Printer
import GemDeps.Manifest.Document

/-!
# Documents in JSON

* `Document.toJson`: a document as a JSON value; the path is left out when it is not set.
* `Document.ofJson?`: the document that a JSON value writes.
* `Document.parse?`: the document that a JSON text writes.
-/

namespace GemDeps

/-! ## Writing -/

/-- A text as a JSON string. -/
def Json.ofText (t : Text) : Json := .string (Json.escape t)

/-- Texts as a JSON array. -/
def Json.ofTexts (ts : List Text) : Json := .array (ts.map Json.ofText)

/-- A value, or `null`. -/
def Json.ofOption (f : α → Json) : Option α → Json
  | some a => f a
  | none => .null

/-- A number as a JSON value. -/
def Json.ofNat (n : Nat) : Json := .number (Text.decimal n)

/-- A member with a key that needs no escapes. -/
def Json.field (key : String) (value : Json) : Text × Json := (key.toList, value)

namespace Kind

/-- The kinds with their names in JSON. -/
def names : List (Text × Kind) := [("gemfile".toList, gemfile), ("gemspec".toList, gemspec)]

/-- The name of a kind in JSON. -/
def name : Kind → Text
  | gemfile => "gemfile".toList
  | gemspec => "gemspec".toList

end Kind

/-- What is loaded for a gem, as a JSON value. -/
def RequireOption.toJson : RequireOption → Json
  | .disabled => .bool false
  | .path p => .ofText p

/-- A declaration as a JSON value. -/
def Declaration.toJson (d : Declaration) : Json :=
  .object
    [Json.field "name" (.ofText d.name),
      Json.field "versionRequirement" (.ofOption .ofText d.versionRequirement),
      Json.field "source" (.ofOption .ofText d.source),
      Json.field "groups" (.ofTexts d.groups),
      Json.field "platforms" (.ofTexts d.platforms),
      Json.field "requireOption" (.ofOption RequireOption.toJson d.requireOption),
      Json.field "line" (.ofNat d.line.toNat)]

/-- A document as a JSON value. -/
def Document.toJson (d : Document) : Json :=
  .object <|
    [Json.field "kind" (.string d.kind.name)] ++
      (d.path.map fun p => Json.field "path" (.ofText p.text)).toList ++
      [Json.field "languageVersion" (.ofOption .ofText d.languageVersion),
        Json.field "defaultSource" (.ofOption .ofText d.defaultSource),
        Json.field "declarations" (.array (d.declarations.map Declaration.toJson))]

/-! ## Reading -/

/-- What is loaded for a gem. Loading the usual file is written by leaving the option out, so the
value `true` is refused. -/
def RequireOption.ofJson? : Json → Option RequireOption
  | .bool false => some .disabled
  | .string s => (Json.unescape? s).map .path
  | _ => none

/-- The declaration that a JSON value writes. -/
def Declaration.ofJson? (j : Json) : Option Declaration :=
  let names := ["name", "versionRequirement", "source", "groups", "platforms", "requireOption",
    "line"].map String.toList
  match Json.fields? names j with
  | some [name, versionRequirement, source, groups, platforms, requireOption, line] => do
    return {
      name := ← Json.required? Json.text? name
      versionRequirement := ← Json.optional? Json.text? versionRequirement
      source := ← Json.optional? Json.text? source
      groups := ← Json.required? Json.texts? groups
      platforms := ← Json.required? Json.texts? platforms
      requireOption := ← Json.optional? RequireOption.ofJson? requireOption
      line := ← Json.required? Json.word32? line }
  | _ => none

/-- The declarations that a JSON array writes. -/
def Declaration.listOfJson? : Json → Option (List Declaration)
  | .array items => items.mapM Declaration.ofJson?
  | _ => none

/-- The document that a JSON value writes. -/
def Document.ofJson? (j : Json) : Option Document :=
  let names := ["kind", "path", "languageVersion", "defaultSource", "declarations"].map
    String.toList
  match Json.fields? names j with
  | some [kind, path, languageVersion, defaultSource, declarations] => do
    return {
      kind := ← Json.required? (Json.variant? Kind.names) kind
      path := ← Json.optional? (fun p => (Json.text? p).map Path.mk) path
      languageVersion := ← Json.optional? Json.text? languageVersion
      defaultSource := ← Json.optional? Json.text? defaultSource
      declarations := ← Json.required? Declaration.listOfJson? declarations }
  | _ => none

/-- The document that a JSON text writes. -/
def Document.parse? (t : Text) : Option Document := (Json.parse? t).bind Document.ofJson?

end GemDeps
