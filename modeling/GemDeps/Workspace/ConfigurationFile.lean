import GemDeps.Files.Storage
import GemDeps.Workspace.Configuration

/-!
# Configuration files

* `ConfigurationError`: why a configuration file is of no use.
* `Configuration.load`: the configuration in a file.
* `Configuration.discover`: the configuration in the user's file, or the defaults.
-/

namespace GemDeps

/-- Why a configuration file is of no use. -/
inductive ConfigurationError
  /-- It cannot be read. -/
  | unreadable (path : Path) (cause : FileError)
  /-- It does not hold a configuration. -/
  | malformed (path : Path)
  deriving DecidableEq, Repr

/-- The message about an error. -/
def ConfigurationError.message : ConfigurationError → Text
  | unreadable p e => "Failed to read config file ".toList ++ p.text ++ ": ".toList ++ e.text
  | malformed p => "Failed to parse config file ".toList ++ p.text

namespace Configuration

/-- The configuration in a text that was read from `p`. -/
def ofFile (p : Path) (content : Except FileError Text) :
    Except ConfigurationError Configuration := do
  let t ← content.mapError (.unreadable p)
  match ofToml? t with
  | some c => return c
  | none => .error (.malformed p)

/-- The configuration in the file at `p`, taken from the directory `cwd`. -/
def load [Monad m] (files : Storage m) (cwd p : Path) :
    m (Except ConfigurationError Configuration) := do
  return ofFile p (← files.read (cwd.join p))

/-- The place of the user's file below the directory of configurations. -/
def userFile : Path := ⟨"gem-manifest/config.toml".toList⟩

/-- The configuration in the user's file. If there is none, or it is of no use, the defaults
count. -/
def discover [Monad m] (files : Storage m) : Option Path → m Configuration
  | none => return {}
  | some home => do
    match ← load files home userFile with
    | .ok c => return c
    | .error _ => return {}

end Configuration

end GemDeps
