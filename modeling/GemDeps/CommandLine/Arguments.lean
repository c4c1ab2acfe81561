import GemDeps.Workspace.Form

/-!
# Command lines

A command line is options, the name of a command, and the options and values of that command in any
order. The two options for the configuration and the base directory may stand on either side of the
name. After `--` everything is a value.

* `CommandName`, `OptionName`: the commands and their options.
* `UsageError`: what is wrong with a command line.
* `Invocation.parse`: what a command line asks for.
-/

namespace GemDeps

/-! ## Options -/

/-- The options of all commands. -/
inductive OptionName
  | config
  /-- The directory at which relative paths start. -/
  | baseDir
  /-- The kind to read a manifest as. -/
  | kind
  /-- The version of a gem to be added. -/
  | version
  /-- The operator in front of the version. -/
  | operator
  /-- The quotes to write. -/
  | quote
  /-- A group of the gem. -/
  | group
  /-- A platform of the gem. -/
  | platform
  /-- The source of the gem. -/
  | source
  /-- The file that is loaded for the gem. -/
  | require
  /-- Nothing is loaded for the gem. -/
  | noRequire
  /-- The dependency is for development. -/
  | development
  /-- Show the program's version. -/
  | showVersion
  /-- Show how the program is used. -/
  | showHelp
  deriving DecidableEq, Repr

namespace OptionName

/-- The long name of an option, written after `--`. -/
def long : OptionName → Text
  | config => "config".toList
  | baseDir => "base-dir".toList
  | kind => "kind".toList
  | version | showVersion => "version".toList
  | operator => "operator".toList
  | quote => "quote".toList
  | group => "group".toList
  | platform => "platform".toList
  | source => "source".toList
  | require => "require".toList
  | noRequire => "no-require".toList
  | development => "development".toList
  | showHelp => "help".toList

/-- The letter of an option, written after `-`. -/
def short? : OptionName → Option Char
  | kind => some 'k'
  | version => some 'v'
  | operator => some 'o'
  | quote => some 'q'
  | group => some 'g'
  | platform => some 'p'
  | source => some 's'
  | development => some 'd'
  | showVersion => some 'V'
  | showHelp => some 'h'
  | _ => none

/-- Does a value belong to the option? -/
def takesValue : OptionName → Bool
  | noRequire | development | showVersion | showHelp => false
  | _ => true

/-- May the option be given more than once? -/
def repeats : OptionName → Bool
  | group | platform => true
  | _ => false

end OptionName

/-! ## Commands -/

/-- The commands. -/
inductive CommandName
  /-- Print the declarations of a manifest. -/
  | read
  /-- Set the version constraint of a gem. -/
  | pin
  /-- Remove the version constraints of a gem. -/
  | unpin
  /-- Declare a gem in a Gemfile. -/
  | add
  /-- Declare a dependency in a gemspec. -/
  | addDependency
  /-- Carry out the request on standard input. -/
  | exec
  deriving DecidableEq, Repr

namespace CommandName

/-- The commands with their names. -/
def names : List (Text × CommandName) :=
  [("read".toList, read), ("pin".toList, pin), ("unpin".toList, unpin), ("add".toList, add),
    ("add-dependency".toList, addDependency), ("exec".toList, exec)]

/-- The options that every command has. -/
def sharedOptions : List OptionName := [.config, .baseDir, .showHelp]

/-- The options in front of a command. -/
def outerOptions : List OptionName := .showVersion :: sharedOptions

/-- The options of a command. -/
def options : CommandName → List OptionName
  | read => .kind :: sharedOptions
  | pin => .operator :: .quote :: sharedOptions
  | unpin | exec => sharedOptions
  | add =>
    [.version, .operator, .quote, .group, .platform, .source, .require, .noRequire] ++ sharedOptions
  | addDependency => [.version, .operator, .quote, .development] ++ sharedOptions

/-- The number of values of a command. -/
def arity : CommandName → Nat
  | read => 1
  | pin => 3
  | unpin | add | addDependency => 2
  | exec => 0

end CommandName

/-! ## Errors -/

/-- What is wrong with a command line. -/
inductive UsageError
  /-- There is no such option. -/
  | unknownOption (written : Text)
  | missingValue (option : OptionName)
  /-- An option that has no value is given one. -/
  | unneededValue (option : OptionName)
  /-- An option is given twice. -/
  | repeatedOption (option : OptionName)
  /-- The value of an option is none of those allowed. -/
  | invalidValue (option : OptionName) (value : Text)
  /-- The path of the manifest is empty. -/
  | emptyPath
  /-- Two options exclude each other. -/
  | conflict (first second : OptionName)
  /-- There is no such command. -/
  | unknownCommand (name : Text)
  | noCommand
  /-- There are not as many values as the command needs. -/
  | wrongCount (command : CommandName) (found : Nat)
  deriving DecidableEq, Repr

/-- Why a command line asks for no command. -/
inductive Stop
  /-- It asks for the program's version. -/
  | version
  /-- It asks how the program is used. -/
  | help
  /-- It is wrong. -/
  | usage (cause : UsageError)
  deriving DecidableEq, Repr

/-! ## Collecting -/

/-- The options and values that have been given. -/
structure Collected where
  /-- Which options have been given. -/
  given : List OptionName := []
  values : List Text := []
  config : Option Path := none
  /-- The directory at which relative paths start. -/
  baseDir : Option Path := none
  /-- The kind to read a manifest as. -/
  kind : Option Kind := none
  /-- The version of a gem to be added. -/
  version : Option Text := none
  /-- The operator in front of the version. -/
  operator : Option Operator := none
  /-- The quotes to write. -/
  quote : Option QuoteStyle := none
  /-- The groups of the gem. -/
  groups : List Text := []
  /-- The platforms of the gem. -/
  platforms : List Text := []
  /-- The source of the gem. -/
  source : Option Text := none
  /-- The file that is loaded for the gem. -/
  require : Option Text := none
  deriving Repr

namespace Collected

/-- What an option's value means; `none` is refused. -/
def accept (o : OptionName) (value : Text) : Option α → Except Stop (Option α)
  | some a => .ok (some a)
  | none => .error (.usage (.invalidValue o value))

/-- A path, which cannot be empty. -/
def path? (t : Text) : Option Path := if t.isEmpty then none else some ⟨t⟩

/-- The kind that a text names, in ASCII letters of either case. -/
def kind? (t : Text) : Option Kind := Kind.names.lookup (t.map Char.toLower)

/-- What has been collected, with the value of an option. -/
def put (r : Collected) (o : OptionName) (value : Text) : Except Stop Collected :=
  match o with
  | .config => return { r with config := ← accept o value (path? value) }
  | .baseDir => return { r with baseDir := ← accept o value (path? value) }
  | .kind => return { r with kind := ← accept o value (kind? value) }
  | .version => return { r with version := some value }
  | .operator => return { r with operator := ← accept o value (Operator.ofText? value) }
  | .quote => return { r with quote := ← accept o value (QuoteStyle.ofText? value) }
  | .group => return { r with groups := r.groups ++ [value] }
  | .platform => return { r with platforms := r.platforms ++ [value] }
  | .source => return { r with source := some value }
  | .require => return { r with require := some value }
  | .noRequire | .development => return r
  | .showVersion => .error .version
  | .showHelp => .error .help

/-- What has been collected, with one more option. -/
def give (r : Collected) (o : OptionName) (value : Text) : Except Stop Collected :=
  if o ∈ r.given && !o.repeats then .error (.usage (.repeatedOption o))
  else put { r with given := o :: r.given } o value

end Collected

/-- What one argument is. -/
inductive Argument
  | value (t : Text)
  /-- The mark after which everything is a value. -/
  | escape
  /-- A long option, possibly with a value behind `=`. -/
  | long (name : Text) (value : Option Text)
  /-- One or more letters, the last possibly with a value behind it. -/
  | short (letters : Text)
  deriving Repr

/-- What an argument is. -/
def Argument.ofText (t : Text) : Argument :=
  match t with
  | ['-', '-'] => .escape
  | '-' :: '-' :: u =>
    match u.dropWhile (· ≠ '=') with
    | _ :: v => .long (u.takeWhile (· ≠ '=')) (some v)
    | [] => .long u none
  | '-' :: c :: u => .short (c :: u)
  | t => .value t

namespace Collected

/-- What has been collected, and the option that waits for its value. -/
abbrev State := Collected × Option OptionName

/-- No option may wait for its value. -/
def checkPending : Option OptionName → Except Stop Unit
  | some o => .error (.usage (.missingValue o))
  | none => .ok ()

/-- The state after a long option. -/
def giveLong (options : List OptionName) (r : Collected) (name : Text) (value : Option Text) :
    Except Stop State :=
  match options.find? (·.long = name), value with
  | none, _ => .error (.usage (.unknownOption name))
  | some o, some v =>
    if o.takesValue then return (← r.give o v, none) else .error (.usage (.unneededValue o))
  | some o, none => if o.takesValue then return (r, some o) else return (← r.give o [], none)

/-- The state after letters. -/
def giveShort (options : List OptionName) (r : Collected) : Text → Except Stop State
  | [] => .ok (r, none)
  | c :: t =>
    match options.find? (·.short? = some c) with
    | none => .error (.usage (.unknownOption [c]))
    | some o =>
      if !o.takesValue then do giveShort options (← r.give o []) t
      else
        match t with
        | [] => .ok (r, some o)
        | '=' :: v => return (← r.give o v, none)
        | v => return (← r.give o v, none)

/-- Collects options, and values if `inner` is set; else the first value ends the collection, and
what remains from there on is returned as well. -/
def collect (options : List OptionName) (inner : Bool) (r : Collected) (pending : Option OptionName)
    (trailing : Bool) : List Text → Except Stop (Collected × List Text)
  | [] => do
    checkPending pending
    return (r, [])
  | t :: ts =>
    let arg := if trailing then .value t else Argument.ofText t
    match arg, pending with
    | .value v, some o =>
      if trailing then .error (.usage (.missingValue o))
      else do collect options inner (← r.give o v) none trailing ts
    | .value v, none =>
      if inner then collect options inner { r with values := r.values ++ [v] } none trailing ts
      else if trailing then .error (.usage (.unknownCommand v))
      else .ok (r, t :: ts)
    | .escape, _ => collect options inner r pending true ts
    | .long name value, _ => do
      checkPending pending
      let (r, pending) ← r.giveLong options name value
      collect options inner r pending trailing ts
    | .short letters, _ => do
      checkPending pending
      let (r, pending) ← r.giveShort options letters
      collect options inner r pending trailing ts

/-- What is loaded for a gem that is declared. -/
def requireOption (r : Collected) : Option RequireOption :=
  if .noRequire ∈ r.given then some .disabled else r.require.map .path

/-- What a gem is declared with. -/
def declarationOptions (r : Collected) : DeclarationOptions :=
  { version := r.version, operator := r.operator, groups := r.groups, platforms := r.platforms
    source := r.source, require := r.requireOption }

/-- What a dependency is declared with. -/
def dependencyOptions (r : Collected) : DeclarationOptions :=
  { version := r.version, operator := r.operator
    groups := if .development ∈ r.given then [developmentGroup] else []
    platforms := [], source := none, require := none }

end Collected

/-! ## Invocations -/

/-- What a command does. -/
inductive Command
  /-- Carry out a request. -/
  | request (r : Request)
  /-- Carry out the request on standard input. -/
  | exec
  deriving Repr

/-- What a command line asks for. -/
structure Invocation where
  config : Option Path
  /-- The directory at which relative paths start. -/
  baseDir : Option Path
  command : Command
  deriving Repr

/-- An action on the manifest at a path that is not empty. -/
def Command.onManifest (file : Text) (action : Action) : Except Stop Command :=
  match Collected.path? file with
  | some p => .ok (.request ⟨p, action⟩)
  | none => .error (.usage .emptyPath)

/-- The command for collected options and values. -/
def Command.ofCollected (c : CommandName) (r : Collected) : Except Stop Command :=
  match c, r.values with
  | .read, [file] => onManifest file (.read r.kind)
  | .pin, [file, name, version] => onManifest file (.pin name version r.operator r.quote)
  | .unpin, [file, name] => onManifest file (.unpin name)
  | .add, [file, name] => onManifest file (.addDeclaration name r.declarationOptions r.quote)
  | .addDependency, [file, name] =>
    onManifest file (.addDependency name r.dependencyOptions r.quote)
  | .exec, [] => .ok .exec
  | c, values => .error (.usage (.wrongCount c values.length))

namespace Invocation

/-- What a command line asks for. -/
def parse (args : List Text) : Except Stop Invocation := do
  let (outer, rest) ← Collected.collect CommandName.outerOptions false {} none false args
  match rest with
  | [] => .error (.usage .noCommand)
  | name :: args =>
    match CommandName.names.lookup name with
    | none => .error (if name = "help".toList then .help else .usage (.unknownCommand name))
    | some c =>
      let (inner, _) ← Collected.collect c.options true {} none false args
      if .require ∈ inner.given && .noRequire ∈ inner.given then
        .error (.usage (.conflict .require .noRequire))
      return {
        config := inner.config <|> outer.config
        baseDir := inner.baseDir <|> outer.baseDir
        command := ← Command.ofCollected c inner }

end Invocation

end GemDeps
