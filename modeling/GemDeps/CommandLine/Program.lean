import GemDeps.CommandLine.Arguments
import GemDeps.Workspace.ConfigurationFile
import GemDeps.Workspace.Response

/-!
# The program

* `Failure`: why a run of the program fails.
* `Report`: what a run shows, and its exit status.
* `Program.run`: a run with given arguments on a store of files.
-/

namespace GemDeps

/-! ## Reports -/

namespace UsageError

/-- An option as written. -/
def written (o : OptionName) : Text := "--".toList ++ o.long

/-- The message about a command line. -/
def message : UsageError → Text
  | unknownOption t => "unexpected argument ".toList ++ t.shown
  | missingValue o => "a value is required for ".toList ++ written o
  | unneededValue o => "no value is allowed for ".toList ++ written o
  | repeatedOption o => written o ++ " cannot be used multiple times".toList
  | invalidValue o t => "invalid value ".toList ++ t.shown ++ " for ".toList ++ written o
  | emptyPath => "the path of the manifest is empty".toList
  | conflict o p => written o ++ " cannot be used with ".toList ++ written p
  | unknownCommand t => "unrecognized command ".toList ++ t.shown
  | noCommand => "a command is required".toList
  | wrongCount c n =>
    Text.decimal c.arity ++ " values are required, ".toList ++ Text.decimal n ++ " given".toList

end UsageError

/-- Why a run of the program fails. -/
inductive Failure
  /-- The command line is wrong. -/
  | usage (cause : UsageError)
  /-- The configuration file is of no use. -/
  | configuration (cause : ConfigurationError)
  /-- The request cannot be carried out. -/
  | manifest (cause : ManifestError)
  deriving Repr

/-- The message about a failure. -/
def Failure.message : Failure → Text
  | usage e => e.message
  | configuration e => e.message
  | manifest e => e.message

/-- What a run shows, and its exit status. -/
structure Report where
  status : UInt32
  /-- What is shown on standard output. -/
  output : Text := []
  /-- What is reported on the error output. -/
  failure : Option Failure := none
  deriving Repr

namespace Report

/-- A text as a line. -/
def line (t : Text) : Text := t ++ ['\n']

/-- A run that shows a text. -/
def shows (t : Text) : Report := { status := 0, output := line t }

/-- A run that fails. -/
def fails : Failure → Report
  | .usage e => { status := 2, failure := some (.usage e) }
  | e => { status := 1, failure := some e }

/-- A run that carries out a request: it shows the document that has been read, or the message. -/
def ofOutcome (o : Outcome) : Report :=
  shows <|
    match o.document with
    | some d => d.toJson.pretty 0
    | none => o.message

/-- A run that answers a request by its response. -/
def ofResponse (r : Response) : Report :=
  { status := if r.success then 0 else 1, output := line r.toJson.compact }

/-- The error output. -/
def errorText (r : Report) : Text :=
  match r.failure with
  | some e => line ("Error: ".toList ++ e.message)
  | none => []

end Report

/-! ## Running -/

namespace Program

/-- Where the program runs. -/
structure Place where
  workingDirectory : Path
  /-- The directory of the user's configurations. -/
  configurations : Option Path
  deriving Repr

/-- The name and version of the program. -/
def versionText : Text := "gem-manifest 0.1.0".toList

/-- How the program is used. -/
def helpText : Text :=
  Text.join ['\n'] <| List.map String.toList
    ["Read and edit Gemfile and gemspec dependencies", "",
      "Usage: gem-manifest [OPTIONS] <COMMAND>", "", "Commands:",
      "  read            Print the declarations of a manifest as JSON",
      "  pin             Set the version constraint of a gem",
      "  unpin           Remove the version constraint of a gem",
      "  add             Add a gem to a Gemfile",
      "  add-dependency  Add a dependency to a gemspec",
      "  exec            Run a JSON request read from stdin and print the JSON response", "",
      "Options:", "  --config <CONFIG>      Configuration file",
      "  --base-dir <BASE_DIR>  Directory that relative manifest paths are resolved against"]

/-- The configuration that a command line asks for. -/
def configuration [Monad m] (files : Storage m) (place : Place) :
    Option Path → m (Except ConfigurationError Configuration)
  | some p => Configuration.load files place.workingDirectory p
  | none => return .ok (← Configuration.discover files place.configurations)

/-- Carries out a command. -/
def perform [Monad m] (files : Storage m) (input : m Text) (s : Session) : Command → m Report
  | .request r => do
    match ← (s.perform files r).run with
    | .ok o => return .ofOutcome o
    | .error e => return .fails (.manifest e)
  | .exec => do return .ofResponse (← s.execute files (← input))

/-- Runs the program with some arguments; `input` is read only if a command needs it. -/
def run [Monad m] (files : Storage m) (place : Place) (input : m Text) (args : List Text) :
    m Report :=
  match Invocation.parse args with
  | .error .version => return .shows versionText
  | .error .help => return .shows helpText
  | .error (.usage e) => return .fails (.usage e)
  | .ok i => do
    match ← configuration files place i.config with
    | .error e => return .fails (.configuration e)
    | .ok c => perform files input ⟨c, place.workingDirectory, i.baseDir⟩ i.command

end Program

end GemDeps
