import GemDeps.Code.Call
import GemDeps.Manifest.Document
import GemDeps.Manifest.Statement
import GemDeps.Manifest.Version
import GemDeps.Text.Lines

/-!
# Reading a Gemfile

A Gemfile is read line by line. A line has one meaning (`Entry`): it sets something for the lines
after it, opens or closes a block, or declares a gem. The blocks open at a line scope the gems
declared there: their groups and platforms add up, and the innermost source wins.

* `Entry.ofLine`: the meaning of a line.
* `Gemfile.State`: the open blocks and what has been read so far.
* `Gemfile.read`: the document of a Gemfile.
-/

namespace GemDeps

/-! ## Blocks -/

/-- What an open block says about the gems inside it. -/
inductive Scope
  /-- They belong to these groups. -/
  | groups (names : List Text)
  /-- They are restricted to these platforms. -/
  | platforms (names : List Text)
  /-- They come from here. -/
  | source (url : Text)
  /-- Nothing. -/
  | other
  deriving DecidableEq, Repr, Inhabited

namespace Scope

/-- The groups that a block names. -/
def groupNames : Scope → List Text
  | groups names => names
  | _ => []

/-- The platforms that a block names. -/
def platformNames : Scope → List Text
  | platforms names => names
  | _ => []

/-- The source that a block names. -/
def url? : Scope → Option Text
  | source url => some url
  | _ => none

end Scope

/-! ## Meanings of lines -/

/-- The server meant by a source that is named by a symbol. -/
def rubygemsUrl : Text := "https://rubygems.org".toList

/-- The address of a repository on GitHub, given as `owner/name` or as a name alone. -/
def githubUrl (repo : Text) : Text :=
  let base := "https://github.com/".toList
  if '/' ∈ repo then base ++ repo ++ ".git".toList
  else base ++ repo ++ '/' :: repo ++ ".git".toList

/-- The server that the argument of a `source` statement names. -/
def serverUrl? (argument : Text) : Option Text :=
  match Value.read argument with
  | .str url => some url
  | .symbol _ => some rubygemsUrl
  | _ => none

/-- The meaning of a line of a Gemfile. -/
inductive Entry
  /-- Nothing that is read. -/
  | nothing
  /-- The language version is this one. -/
  | language (version : Text)
  /-- Gems declared after this line come from this server. -/
  | server (url : Text)
  /-- A block opens. -/
  | opens (scope : Scope)
  /-- The innermost block closes. -/
  | closes
  /-- A gem is declared. -/
  | gem (statement : Statement)
  deriving DecidableEq, Repr

namespace Entry

/-- The keywords whose blocks name the source of the gems inside. -/
def sourceKeywords : List Text := ["git".toList, "path".toList, "github".toList]

/-- The meaning of a `ruby` statement. -/
def ofRuby (call : Call) : Entry :=
  match (splitArguments call.arguments).head?.map Value.read with
  | some (.str version) => language version
  | _ => nothing

/-- The meaning of a `source` statement, with or without a block. -/
def ofSource (call : Call) : Entry :=
  match (splitArguments call.arguments).head?.bind serverUrl?, call.opensBlock with
  | some url, true => opens (.source url)
  | some url, false => server url
  | none, true => opens .other
  | none, false => nothing

/-- What a `git`, `path` or `github` block says. -/
def repositoryScope (code : Text) (call : Call) : Scope :=
  match (splitArguments call.arguments).head?.bind (Value.read · |>.text?) with
  | some s => .source (if "github".toList.isPrefixOf code then githubUrl s else s)
  | none => .other

/-- The call in `code` of one of `keywords`, if it opens a block. -/
def blockCall? (keywords : List Text) (code : Text) : Option Call :=
  (Call.read? keywords code).filter (·.opensBlock)

/-- The meaning of a line whose code starts with none of the known calls. -/
def ofPlain (line code : Text) : Entry :=
  if startsWithEnd code then closes
  else
    match Statement.readGem? line with
    | some s => gem s
    | none => if 0 < blockDelta code then opens .other else nothing

/-- The meaning of a line. -/
def ofLine (line : Text) : Entry :=
  let code := Text.trim (stripComment line)
  if code.isEmpty then nothing
  else if let some call := Call.read? ["ruby".toList] code then ofRuby call
  else if let some call := Call.read? ["source".toList] code then ofSource call
  else if let some call := blockCall? ["group".toList] code then
    opens (.groups (Value.nameList call.arguments))
  else if let some call := blockCall? ["platforms".toList, "platform".toList] code then
    opens (.platforms (Value.nameList call.arguments))
  else if let some call := blockCall? sourceKeywords code then opens (repositoryScope code call)
  else ofPlain line code

end Entry

/-- The group names of a line that opens a `group` block. -/
def groupOpening? (line : Text) : Option (List Text) :=
  (Entry.blockCall? ["group".toList] (Text.trim (stripComment line))).map fun call =>
    Value.nameList call.arguments

namespace Gemfile

/-! ## The state of the reader -/

/-- The open blocks and what has been read so far. -/
structure State where
  /-- The open blocks, the innermost first. -/
  scopes : List Scope
  /-- The server named by the last `source` statement without a block. -/
  currentSource : Option Text
  languageVersion : Option Text
  /-- The server named by the first `source` statement without a block. -/
  defaultSource : Option Text
  deriving DecidableEq, Repr, Inhabited

namespace State

/-- The state before the first line. -/
def initial : State := ⟨[], none, none, none⟩

/-- The groups of the open blocks, the outermost block's first. -/
def groups (s : State) : List Text :=
  s.scopes.reverse.foldl (fun acc b => Text.union acc b.groupNames) []

/-- The platforms of the open blocks, the outermost block's first. -/
def platforms (s : State) : List Text :=
  s.scopes.reverse.foldl (fun acc b => Text.union acc b.platformNames) []

/-- The source of the innermost open block that names one. -/
def blockSource? (s : State) : Option Text := s.scopes.findSome? Scope.url?

/-- The server of the last `source` statement, when not the default one. -/
def serverSource? (s : State) : Option Text :=
  if s.currentSource = s.defaultSource then none else s.currentSource

/-- The state after a line. -/
def after (s : State) : Entry → State
  | .nothing | .gem _ => s
  | .language version => { s with languageVersion := some version }
  | .server url => { s with
      defaultSource := s.defaultSource <|> some url, currentSource := some url }
  | .opens scope => { s with scopes := scope :: s.scopes }
  | .closes => { s with scopes := s.scopes.tail }

end State

/-! ## Declarations -/

/-- The options of a declaration read so far. -/
structure Options where
  /-- The groups, with those of the open blocks. -/
  groups : List Text
  /-- The platforms, with those of the open blocks. -/
  platforms : List Text
  /-- The source named by the declaration. -/
  source : Option Text
  /-- What is loaded. -/
  require : Option RequireOption
  deriving DecidableEq, Repr, Inhabited

namespace Options

/-- What the value of a `require` option asks for. -/
def requireOf : Value → Option RequireOption
  | .bool false | .nil => some .disabled
  | .str p => some (.path p)
  | _ => none

/-- The options after one more; the first source that says something counts. -/
def add (o : Options) (key : Text) (value : Value) : Options :=
  if key = "platform".toList || key = "platforms".toList then
    { o with platforms := Text.union o.platforms value.names }
  else if key = "group".toList || key = "groups".toList then
    { o with groups := Text.union o.groups value.names }
  else if key = "source".toList || key = "git".toList || key = "path".toList then
    { o with source := o.source <|> value.text? }
  else if key = "github".toList then { o with source := o.source <|> value.text?.map githubUrl }
  else if key = "require".toList then { o with require := requireOf value }
  else o

/-- The options after an argument; an argument that is no option changes nothing. -/
def addArgument (o : Options) (argument : Text) : Options :=
  match Value.pair? argument with
  | some (key, value) => o.add key value
  | none => o

end Options

/-- The declaration that a statement on line `line` makes in state `s`. -/
def declaration (s : State) (line : Nat) (stmt : Statement) : Declaration :=
  let (versions, options) := leadingVersions (splitArguments stmt.arguments)
  let o := options.foldl Options.addArgument ⟨s.groups, s.platforms, none, none⟩
  { name := stmt.name
    versionRequirement := joinVersions versions
    source := o.source <|> s.blockSource? <|> s.serverSource?
    groups := o.groups
    platforms := o.platforms
    requireOption := o.require
    line := .ofNat line }

/-! ## The reader -/

/-- The declarations on the lines from number `line` on, read from state `s`, and the last state. -/
def readLines (s : State) (line : Nat) : List Text → List Declaration × State
  | [] => ([], s)
  | l :: ls =>
    let e := Entry.ofLine l
    let r := readLines (s.after e) (line + 1) ls
    match e with
    | .gem stmt => (declaration s line stmt :: r.1, r.2)
    | _ => r

/-- The document of a Gemfile. -/
def read (text : Text) : Document :=
  let (declarations, s) := readLines .initial 0 (Text.lines text)
  { kind := .gemfile
    path := none
    languageVersion := s.languageVersion
    defaultSource := s.defaultSource
    declarations }

end Gemfile

end GemDeps
