import GemDeps.Files.Error
import GemDeps.Files.Path

/-!
# Stores of files

* `Storage`: how the files of a store are read and written.
-/

namespace GemDeps

/-- How files are read and written, at absolute paths. -/
structure Storage (m : Type → Type) where
  /-- The text of a file. -/
  read : Path → m (Except FileError Text)
  /-- Puts a text in place of that of a file. -/
  write : Path → Text → m (Except FileError Unit)

end GemDeps
