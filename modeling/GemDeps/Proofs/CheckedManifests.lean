import GemDeps.Manifest.Reader
import GemDeps.Proofs.CheckedStatements
import GemDeps.Proofs.Spans

/-!
# Manifests with checked cuts

The readers of a manifest and the searches for its lines, with every cut of a line and every access
to a line by its number checked. On every text they succeed with what the library reads and finds.
-/

namespace GemDeps.Checked

/-! ## Meanings of lines -/

/-- The value of the first argument of a call. -/
def firstValue? (call : Call) : Checked (Option Value) := do
  match (← splitArguments call.arguments).head? with
  | none => return none
  | some a => return some (← readValue a)

/-- The server that the value of a `source` statement names. -/
def serverUrl? : Value → Option Text
  | .str url => some url
  | .symbol _ => some rubygemsUrl
  | _ => none

/-- The meaning of a `ruby` statement. -/
def ofRuby (call : Call) : Checked Entry := do
  return match ← firstValue? call with
    | some (.str version) => .language version
    | _ => .nothing

/-- The meaning of a `source` statement, with or without a block. -/
def ofSource (call : Call) : Checked Entry := do
  return match (← firstValue? call).bind serverUrl?, call.opensBlock with
    | some url, true => .opens (.source url)
    | some url, false => .server url
    | none, true => .opens .other
    | none, false => .nothing

/-- What a `git`, `path` or `github` block says. -/
def repositoryScope (code : Text) (call : Call) : Checked Scope := do
  return match (← firstValue? call).bind Value.text? with
    | some s => .source (if "github".toList.isPrefixOf code then githubUrl s else s)
    | none => .other

/-- The call in `code` of one of `keywords`, if it opens a block. -/
def blockCall? (keywords : List Text) (code : Text) : Checked (Option Call) := do
  return (← readCall? keywords code).filter (·.opensBlock)

/-- The change in block depth over a line. -/
def blockDelta (line : Text) : Checked Int := do
  let code := (← stripComment line).trim
  return if startsWithEnd code then -1
    else if opensBlock code then if endsWithEnd code then 0 else 1
    else 0

/-- The meaning of a line whose code starts with none of the known calls. -/
def ofPlain (line code : Text) : Checked Entry := do
  if startsWithEnd code then return .closes
  else
    match ← readGem? line with
    | some s => return .gem s
    | none => return if 0 < (← blockDelta code) then .opens .other else .nothing

/-- The meaning of a line. -/
def ofLine (line : Text) : Checked Entry := do
  let code := (← stripComment line).trim
  if code.isEmpty then return .nothing
  if let some call ← readCall? ["ruby".toList] code then return (← ofRuby call)
  if let some call ← readCall? ["source".toList] code then return (← ofSource call)
  if let some call ← blockCall? ["group".toList] code then
    return .opens (.groups (← nameList call.arguments))
  if let some call ← blockCall? ["platforms".toList, "platform".toList] code then
    return .opens (.platforms (← nameList call.arguments))
  if let some call ← blockCall? Entry.sourceKeywords code then
    return .opens (← repositoryScope code call)
  ofPlain line code

/-- The group names of a line that opens a `group` block. -/
def groupOpening? (line : Text) : Checked (Option (List Text)) := do
  match ← blockCall? ["group".toList] (← stripComment line).trim with
  | some call => return some (← nameList call.arguments)
  | none => return none

theorem firstValue?_eq (call : Call) :
    firstValue? call = .ok ((GemDeps.splitArguments call.arguments).head?.map Value.read) := by
  unfold firstValue?
  rw [splitArguments_eq, ok_bind]
  cases (GemDeps.splitArguments call.arguments).head? with
  | none => rfl
  | some a =>
    dsimp only
    rw [readValue_eq]
    rfl

theorem ofRuby_eq (call : Call) : ofRuby call = .ok (Entry.ofRuby call) := by
  unfold ofRuby
  rw [firstValue?_eq]
  rfl

theorem ofSource_eq (call : Call) : ofSource call = .ok (Entry.ofSource call) := by
  unfold ofSource
  rw [firstValue?_eq, ok_bind, Option.bind_map]
  rfl

theorem repositoryScope_eq (code : Text) (call : Call) :
    repositoryScope code call = .ok (Entry.repositoryScope code call) := by
  unfold repositoryScope
  rw [firstValue?_eq, ok_bind, Option.bind_map]
  rfl

theorem blockCall?_eq (keywords : List Text) (code : Text) :
    blockCall? keywords code = .ok (Entry.blockCall? keywords code) := by
  unfold blockCall? Entry.blockCall?
  rw [readCall?_eq]
  rfl

theorem blockDelta_eq (line : Text) : blockDelta line = .ok (GemDeps.blockDelta line) := by
  unfold blockDelta GemDeps.blockDelta
  rw [stripComment_eq]
  rfl

theorem ofPlain_eq (line code : Text) : ofPlain line code = .ok (Entry.ofPlain line code) := by
  unfold ofPlain Entry.ofPlain
  rw [readGem?_eq, ok_bind, blockDelta_eq]
  split
  · rfl
  · cases Statement.readGem? line <;> rfl

theorem ofLine_eq (line : Text) : ofLine line = .ok (Entry.ofLine line) := by
  unfold ofLine Entry.ofLine
  rw [stripComment_eq, ok_bind]
  dsimp only
  generalize (GemDeps.stripComment line).trim = code
  by_cases hcode : code.isEmpty = true
  · rw [if_pos hcode, if_pos hcode]
    rfl
  rw [if_neg hcode, if_neg hcode, readCall?_eq, ok_bind]
  cases Call.read? ["ruby".toList] code with
  | some call => exact ofRuby_eq call
  | none =>
    dsimp only
    rw [readCall?_eq, ok_bind]
    cases Call.read? ["source".toList] code with
    | some call => exact ofSource_eq call
    | none =>
      dsimp only
      rw [blockCall?_eq, ok_bind]
      cases Entry.blockCall? ["group".toList] code with
      | some call =>
        dsimp only
        rw [nameList_eq]
        rfl
      | none =>
        dsimp only
        rw [blockCall?_eq, ok_bind]
        cases Entry.blockCall? ["platforms".toList, "platform".toList] code with
        | some call =>
          dsimp only
          rw [nameList_eq]
          rfl
        | none =>
          dsimp only
          rw [blockCall?_eq, ok_bind]
          cases Entry.blockCall? Entry.sourceKeywords code with
          | some call =>
            dsimp only
            rw [repositoryScope_eq]
            rfl
          | none => exact ofPlain_eq line code

theorem groupOpening?_eq (line : Text) :
    groupOpening? line = .ok (GemDeps.groupOpening? line) := by
  unfold groupOpening? GemDeps.groupOpening?
  rw [stripComment_eq, ok_bind, blockCall?_eq, ok_bind]
  cases Entry.blockCall? ["group".toList] (GemDeps.stripComment line).trim with
  | none => rfl
  | some call =>
    dsimp only
    rw [nameList_eq]
    rfl

/-! ## Gemfiles -/

/-- The options after an argument; an argument that is no option changes nothing. -/
def addArgument (o : Gemfile.Options) (argument : Text) : Checked Gemfile.Options := do
  return match ← pair? argument with
    | some (key, value) => o.add key value
    | none => o

/-- The declaration that a statement on line `line` of a Gemfile makes in state `s`. -/
def gemDeclaration (s : Gemfile.State) (line : Nat) (stmt : Statement) : Checked Declaration := do
  let as ← splitArguments (← arguments stmt)
  let (versions, consumed) ← leadingVersions as
  let options ← argumentsFrom as consumed
  let o ← options.foldlM addArgument ⟨s.groups, s.platforms, none, none⟩
  return {
    name := stmt.name
    versionRequirement := joinVersions versions
    source := o.source <|> s.blockSource? <|> s.serverSource?
    groups := o.groups
    platforms := o.platforms
    requireOption := o.require
    line := .ofNat line }

/-- The declarations on the lines of a Gemfile from number `line` on, read from state `s`, and the
last state. -/
def readGemLines (s : Gemfile.State) (line : Nat) :
    List Text → Checked (List Declaration × Gemfile.State)
  | [] => .ok ([], s)
  | l :: ls => do
    let e ← ofLine l
    match e with
    | .gem stmt =>
      let d ← gemDeclaration s line stmt
      let (ds, s') ← readGemLines (s.after e) (line + 1) ls
      return (d :: ds, s')
    | e => readGemLines (s.after e) (line + 1) ls

/-- The document of a Gemfile. -/
def readGemfile (text : Text) : Checked Document := do
  let (declarations, s) ← readGemLines .initial 0 (Text.lines text)
  return {
    kind := .gemfile
    path := none
    languageVersion := s.languageVersion
    defaultSource := s.defaultSource
    declarations }

theorem addArgument_eq (o : Gemfile.Options) (argument : Text) :
    addArgument o argument = .ok (o.addArgument argument) := by
  unfold addArgument
  rw [pair?_eq]
  rfl

theorem gemDeclaration_eq (s : Gemfile.State) (line : Nat) (stmt : Statement) :
    gemDeclaration s line stmt = .ok (Gemfile.declaration s line stmt) := by
  obtain ⟨n, hversions, hrest⟩ := leadingVersions_eq (GemDeps.splitArguments stmt.arguments)
  unfold gemDeclaration Gemfile.declaration
  rw [arguments_eq, ok_bind, splitArguments_eq, ok_bind, hversions, ok_bind]
  dsimp only
  rw [hrest, ok_bind, foldlM_eq_ok addArgument_eq, ok_bind]
  rfl

theorem readGemLines_eq (s : Gemfile.State) (line : Nat) (ls : List Text) :
    readGemLines s line ls = .ok (Gemfile.readLines s line ls) := by
  induction ls generalizing s line with
  | nil => rfl
  | cons l ls ih =>
    rw [readGemLines, Gemfile.readLines, ofLine_eq, ok_bind]
    dsimp only
    cases Entry.ofLine l with
    | gem stmt =>
      dsimp only
      rw [gemDeclaration_eq, ok_bind, ih]
      rfl
    | _ => exact ih _ _

theorem readGemfile_eq (text : Text) : readGemfile text = .ok (Gemfile.read text) := by
  unfold readGemfile
  rw [readGemLines_eq]
  rfl

/-! ## Gemspecs -/

/-- The requirement on the language that a line's code sets: the strings in the assigned value. -/
def requiredVersion? (code : Text) : Checked (Option (Option Text)) :=
  match Gemspec.versionAssignment? code with
  | none => .ok none
  | some value => do return some (joinVersions (← quotedStrings value 0))

/-- The declaration that a statement on line `line` of a gemspec makes. -/
def dependencyDeclaration (line : Nat) (stmt : Statement) : Checked Declaration := do
  let (versions, _) ← leadingVersions (← splitArguments (← arguments stmt))
  return {
    name := stmt.name
    versionRequirement := joinVersions versions
    source := none
    groups := if stmt.development then [developmentGroup] else []
    platforms := []
    requireOption := none
    line := .ofNat line }

/-- The declarations on the lines of a gemspec from number `line` on, and the language version after
them when it was `version` before. -/
def readDependencyLines (version : Option Text) (line : Nat) :
    List Text → Checked (List Declaration × Option Text)
  | [] => .ok ([], version)
  | l :: ls => do
    match ← readDependency? l with
    | some stmt =>
      let d ← dependencyDeclaration line stmt
      let (ds, version') ← readDependencyLines version (line + 1) ls
      return (d :: ds, version')
    | none =>
      let assigned ← requiredVersion? (← stripComment l)
      readDependencyLines (assigned.getD version) (line + 1) ls

/-- The document of a gemspec. -/
def readGemspec (text : Text) : Checked Document := do
  let (declarations, languageVersion) ← readDependencyLines none 0 (Text.lines text)
  return { kind := .gemspec, path := none, languageVersion, defaultSource := none, declarations }

/-- The document of a text, read as a manifest of the given kind. -/
def readDocument : Kind → Text → Checked Document
  | .gemfile, text => readGemfile text
  | .gemspec, text => readGemspec text

theorem requiredVersion?_eq (code : Text) :
    requiredVersion? code = .ok (Gemspec.requiredVersion? code) := by
  unfold requiredVersion? Gemspec.requiredVersion?
  cases Gemspec.versionAssignment? code with
  | none => rfl
  | some value =>
    have hall := quotedStrings_append [] value
    rw [List.nil_append, Text.size_nil] at hall
    dsimp only
    rw [hall]
    rfl

theorem dependencyDeclaration_eq (line : Nat) (stmt : Statement) :
    dependencyDeclaration line stmt = .ok (Gemspec.declaration line stmt) := by
  obtain ⟨n, hversions, -⟩ := leadingVersions_eq (GemDeps.splitArguments stmt.arguments)
  unfold dependencyDeclaration
  rw [arguments_eq, ok_bind, splitArguments_eq, ok_bind, hversions]
  rfl

theorem readDependencyLines_eq (version : Option Text) (line : Nat) (ls : List Text) :
    readDependencyLines version line ls = .ok (Gemspec.readLines version line ls) := by
  induction ls generalizing version line with
  | nil => rfl
  | cons l ls ih =>
    rw [readDependencyLines, Gemspec.readLines, readDependency?_eq, ok_bind]
    cases Statement.readDependency? l with
    | some stmt =>
      dsimp only
      rw [dependencyDeclaration_eq, ok_bind, ih]
      rfl
    | none =>
      dsimp only
      rw [stripComment_eq, ok_bind, requiredVersion?_eq, ok_bind, ih]

theorem readGemspec_eq (text : Text) : readGemspec text = .ok (Gemspec.read text) := by
  unfold readGemspec
  rw [readDependencyLines_eq]
  rfl

theorem readDocument_eq (kind : Kind) (text : Text) :
    readDocument kind text = .ok (Document.read kind text) :=
  match kind with
  | .gemfile => readGemfile_eq text
  | .gemspec => readGemspec_eq text

end GemDeps.Checked
