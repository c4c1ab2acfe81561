import GemDeps.Files.Storage
import GemDeps.Workspace.Request

/-!
# Working on files

* `Session`: where relative paths start, and how new text looks.
* `Session.perform`: a request carried out on a store of files. The inputs are checked first, then
  the manifest is read, and its file is written once, if its text has changed.
-/

namespace GemDeps

/-- Where relative paths start, and how new text looks. -/
structure Session where
  /-- How new text looks when nothing else decides. -/
  configuration : Configuration := {}
  workingDirectory : Path
  /-- The directory at which relative paths start, if it is not the working directory. -/
  baseDirectory : Option Path := none
  deriving Repr

namespace Session

/-- The absolute path for a path in a request. -/
def resolve (s : Session) (p : Path) : Path :=
  let joined :=
    match s.baseDirectory with
    | some base => base.join p
    | none => p
  s.workingDirectory.absolute joined

/-- Puts the text of an outcome into its file, if it has changed. -/
def save [Monad m] (files : Storage m) (o : Outcome) : ExceptT ManifestError m Unit :=
  if o.changed then ExceptT.mk do return (← files.write o.path o.text).mapError (.file o.path)
  else pure ()

/-- Carries out a request. -/
def perform [Monad m] (s : Session) (files : Storage m) (r : Request) :
    ExceptT ManifestError m Outcome := do
  let _ ← ExceptT.mk (pure (r.action.check.mapError .invalidInput))
  let p := s.resolve r.path
  let text ← ExceptT.mk do return (← files.read p).mapError (.file p)
  let o ← ExceptT.mk (pure (r.action.run s.configuration p text))
  save files o
  return o

end Session

end GemDeps
