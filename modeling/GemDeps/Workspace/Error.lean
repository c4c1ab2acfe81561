import GemDeps.Files.Error
import GemDeps.Manifest.Kind
import GemDeps.Revision.Basic
import GemDeps.Spelling.Operator

/-!
# Why an operation fails

Every failure has a cause that the input and the files determine. There are three kinds: the input
is refused before any file is looked at, a file cannot be read or written, or the text of the
manifest does not allow the edit.

* `InputError`: what is wrong with an input.
* `ManifestError`: why an operation on a manifest fails.
* `ManifestError.message`, `.category`, `.code`: how an error is reported.
-/

namespace GemDeps

/-! ## Inputs -/

/-- What is wrong with an input. -/
inductive InputError
  /-- The text is no name of a gem. -/
  | gemName (name : Text)
  /-- The text is no version. -/
  | version (version : Text)
  /-- An operator is given for a version that has one of its own. -/
  | operatorConflict (operator : Operator) (version own : Text)
  /-- An operator is given without a version. -/
  | operatorAlone
  /-- A text of this field is no name of a group or platform. -/
  | symbolName (field name : Text)
  /-- The text of this field is blank. -/
  | blankText (field : Text)
  /-- The text of this field has line breaks. -/
  | severalLines (field : Text)
  /-- The request cannot be understood, for the stated reason. -/
  | request (reason : Text)
  deriving DecidableEq, Repr

namespace InputError

/-- The input that is wrong. -/
def field : InputError → Text
  | gemName _ => "name".toList
  | version _ => "version".toList
  | operatorConflict .. | operatorAlone => "pinOperator".toList
  | symbolName field _ | blankText field | severalLines field => field
  | request _ => "request".toList

/-- What is wrong with it. -/
def reason : InputError → Text
  | gemName name => "`".toList ++ name ++ "` is not a valid gem name".toList
  | version v => "`".toList ++ v ++ "` is not a valid version constraint".toList
  | operatorConflict op v own =>
    "`".toList ++ op.text ++ "` given for `".toList ++ v ++ "`, which already has `".toList ++
      own ++ "`".toList
  | operatorAlone => "an operator needs a version".toList
  | symbolName _ name => "`".toList ++ name ++ "` is not a valid name".toList
  | blankText _ => "must not be empty".toList
  | severalLines _ => "must be a single line".toList
  | request reason => reason

end InputError

/-! ## Errors of operations -/

/-- The three kinds of failure. -/
inductive ErrorCategory
  /-- The input is refused. -/
  | inputValidation
  /-- A file cannot be read or written. -/
  | fileAccess
  /-- The text of the manifest does not allow the edit. -/
  | structuralConflict
  deriving DecidableEq, Repr

namespace ErrorCategory

/-- The name of a category in reports. -/
def name : ErrorCategory → Text
  | inputValidation => "inputValidation".toList
  | fileAccess => "fileAccess".toList
  | structuralConflict => "structuralConflict".toList

end ErrorCategory

/-- Why an operation on a manifest fails. -/
inductive ManifestError
  /-- An input is wrong. -/
  | invalidInput (cause : InputError)
  /-- The manifest is of the other kind. -/
  | wrongKind (path : Path) (expected actual : Kind)
  /-- The file is not there, or cannot be read or written. -/
  | file (path : Path) (cause : FileError)
  /-- The text does not allow the edit. -/
  | edit (path : Path) (cause : RevisionError)
  deriving DecidableEq, Repr

namespace ManifestError

/-- A path between backquotes. -/
def quotePath (p : Path) : Text := '`' :: (p.text ++ ['`'])

/-- The message about a file that cannot be read or written. -/
def fileMessage (p : Path) : FileError → Text
  | .notFound => "file not found: ".toList ++ quotePath p
  | .permissionDenied => "permission denied: ".toList ++ quotePath p
  | .isDirectory => "not a file: ".toList ++ quotePath p
  | .other reason => "failed to access ".toList ++ quotePath p ++ ": ".toList ++ reason

/-- The message about a text that does not allow an edit. -/
def editMessage (p : Path) : RevisionError → Text
  | .declarationNotFound name =>
    "gem `".toList ++ name ++ "` is not declared in ".toList ++ quotePath p
  | .alreadyDeclared name =>
    "gem `".toList ++ name ++ "` is already declared in ".toList ++ quotePath p
  | .noSpecificationBlock => "no `Gem::Specification.new` block in ".toList ++ quotePath p
  | .multiLineDeclaration name =>
    "gem `".toList ++ name ++ "` spans several lines in ".toList ++ quotePath p ++
      "; edit it by hand".toList

/-- The message about an error. -/
def message : ManifestError → Text
  | invalidInput e => "invalid ".toList ++ e.field ++ ": ".toList ++ e.reason
  | wrongKind p expected actual =>
    quotePath p ++ " is a ".toList ++ actual.label ++ " manifest, expected a ".toList ++
      expected.label ++ " manifest".toList
  | file p e => fileMessage p e
  | edit p e => editMessage p e

/-- The category of an error. -/
def category : ManifestError → ErrorCategory
  | invalidInput _ | wrongKind .. => .inputValidation
  | file .. => .fileAccess
  | edit .. => .structuralConflict

/-- The name of an error in reports. -/
def code : ManifestError → Text
  | invalidInput _ => "InvalidInput".toList
  | wrongKind .. => "WrongKind".toList
  | file _ .notFound => "FileNotFound".toList
  | file _ .permissionDenied => "PermissionDenied".toList
  | file _ .isDirectory => "NotAFile".toList
  | file _ (.other _) => "Io".toList
  | edit _ (.declarationNotFound _) => "DeclarationNotFound".toList
  | edit _ (.alreadyDeclared _) => "AlreadyExists".toList
  | edit _ .noSpecificationBlock => "StructureNotFound".toList
  | edit _ (.multiLineDeclaration _) => "MultiLineDeclaration".toList

end ManifestError

end GemDeps
