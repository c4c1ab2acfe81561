import GemDeps.Json.Fields
import GemDeps.Manifest.Kind
import GemDeps.Revision.Basic
import GemDeps.Toml.Document

/-!
# Configuration

How new text looks when nothing in a manifest decides: the quotes for each kind of manifest, and one
level of indentation. A configuration may set any of them; what it leaves out keeps its default.

* `Configuration`: the settings, with their defaults.
* `Configuration.style`: the style of an edit under a configuration.
* `Configuration.ofOptions`: the configuration in a JSON value; one that is invalid counts for
  nothing.
* `Configuration.ofToml?`: the configuration in a TOML text.
-/

namespace GemDeps

/-- How new text looks when nothing in a manifest decides. -/
structure Configuration where
  /-- The quotes in a Gemfile. -/
  gemfileQuote : QuoteStyle := .single
  /-- The quotes in a gemspec. -/
  gemspecQuote : QuoteStyle := .double
  /-- One level of indentation. -/
  indent : Text := [' ', ' ']
  deriving DecidableEq, Repr, Inhabited

/-- The names of the styles in configurations and requests. -/
def QuoteStyle.names : List (Text × QuoteStyle) :=
  [("single".toList, single), ("double".toList, double)]

namespace Configuration

/-- The quotes for a kind of manifest. -/
def defaultQuote (c : Configuration) : Kind → QuoteStyle
  | .gemfile => c.gemfileQuote
  | .gemspec => c.gemspecQuote

/-- The style of an edit of a manifest, with the quotes asked for. -/
def style (c : Configuration) (kind : Kind) (quote : Option QuoteStyle) : Style :=
  ⟨quote, c.defaultQuote kind, c.indent⟩

/-- The name of the record that holds the settings. -/
def recordNames : List Text := ["formatting".toList]

/-- The names of the settings. -/
def settingNames : List Text :=
  ["gemfile_quote".toList, "gemspec_quote".toList, "indent".toList]

/-- The configuration with some settings given, each read by a function of its own. -/
def ofSettings? (quote? : α → Option QuoteStyle) (text? : α → Option Text) :
    List (Option α) → Option Configuration
  | [gemfile, gemspec, indent] => do
    let default : Configuration := {}
    return {
      gemfileQuote := (← gemfile.mapM quote?).getD default.gemfileQuote
      gemspecQuote := (← gemspec.mapM quote?).getD default.gemspecQuote
      indent := (← indent.mapM text?).getD default.indent }
  | _ => none

/-- The settings in a JSON value. -/
def ofJson? (j : Json) : Option Configuration := do
  match ← Json.defaultedFields? recordNames j with
  | [some formatting] =>
    ofSettings? (Json.variant? QuoteStyle.names) Json.text?
      (← Json.defaultedFields? settingNames formatting)
  | _ => return {}

/-- The configuration in a JSON value. One that is invalid counts for nothing. -/
def ofOptions (options : Option Json) : Configuration := (options.bind ofJson?).getD {}

/-! ## In TOML -/

/-- The values of named settings in a TOML table, or in an array in their order. -/
def tomlSettings? (names : List Text) : Toml → Option (List (Option Toml))
  | .table _ entries => some (names.map fun k => entries.lookup k)
  | .array _ items => some ((List.range names.length).map (items[·]?))
  | _ => none

/-- The text of a TOML string. -/
def tomlText? : Toml → Option Text
  | .text t => some t
  | _ => none

/-- Has a TOML value nothing in it? -/
def isEmptyToml : Toml → Bool
  | .table _ entries => entries.isEmpty
  | .array _ items => items.isEmpty
  | _ => false

/-- The style that a TOML value names: its name, or a table with the name as the only key and
nothing under it. -/
def tomlQuote? : Toml → Option QuoteStyle
  | .text t => QuoteStyle.names.lookup t
  | .table _ [(k, v)] => if isEmptyToml v then QuoteStyle.names.lookup k else none
  | _ => none

/-- The configuration in a TOML text. -/
def ofToml? (t : Text) : Option Configuration := do
  match ← tomlSettings? recordNames (.table .opened (← Toml.parse? t)) with
  | [some formatting] => ofSettings? tomlQuote? tomlText? (← tomlSettings? settingNames formatting)
  | _ => return {}

end Configuration

end GemDeps
