import GemDeps.Text.Basic

/-!
# Why a file cannot be read or written

* `FileError`: the causes.
* `FileError.text`: an error in the system's words.
-/

namespace GemDeps

/-- Why a file cannot be read or written. -/
inductive FileError
  /-- Nothing is there. -/
  | notFound
  | permissionDenied
  | isDirectory
  /-- Something else, in the system's words. -/
  | other (reason : Text)
  deriving DecidableEq, Repr

namespace FileError

/-- A path goes on below something that is no directory. -/
def notADirectory : FileError := .other "Not a directory (os error 20)".toList

/-- A path, or one name in it, has too many bytes. -/
def nameTooLong : FileError := .other "File name too long (os error 36)".toList

/-- A path has a character that no path may have. -/
def nulInPath : FileError := .other "file name contained an unexpected NUL byte".toList

/-- The bytes of a file are not the bytes of a text. -/
def notText : FileError := .other "stream did not contain valid UTF-8".toList

/-- An error in the system's words. -/
def text : FileError → Text
  | notFound => "No such file or directory (os error 2)".toList
  | permissionDenied => "Permission denied (os error 13)".toList
  | isDirectory => "Is a directory (os error 21)".toList
  | other reason => reason

end FileError

end GemDeps
