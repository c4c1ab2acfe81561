import GemDeps.Files.Error
import GemDeps.Files.Path
import GemDeps.Files.Storage

/-!
# Trees of files

A tree says what stands at each place, a place being the names on the way from the root. A path is
followed name by name: each name but the last has to lead to a directory, `..` leads back, and a
final slash asks for a directory.

* `FileTree.entry?`: what stands at a place.
* `FileTree.locate`: the place to which a path leads.
* `FileTree.read`, `FileTree.write`: the text of a file, and a tree with that text changed.
-/

namespace GemDeps

/-- What stands at a place. -/
inductive FileTree.Entry
  /-- A file that holds a text. -/
  | text (content : Text)
  /-- A file that holds no text. -/
  | binary
  | directory
  deriving DecidableEq, Repr

/-- A tree of files. A directory above an entry need not have an entry of its own. -/
structure FileTree where
  /-- What stands at some places. -/
  entries : List (List Text × FileTree.Entry)
  deriving DecidableEq, Repr

namespace FileTree

/-- The most bytes that one name may have. -/
def nameLimit : Nat := 255

/-- The number of bytes that a path has to stay below. -/
def pathLimit : Nat := 4096

/-- Does an entry stand below this place? -/
def hasBelow (t : FileTree) (place : List Text) : Bool :=
  t.entries.any fun e => place.isPrefixOf e.1

/-- What stands at a place. -/
def entry? (t : FileTree) (place : List Text) : Option Entry :=
  match t.entries.lookup place with
  | some e => some e
  | none => if place.isEmpty || t.hasBelow place then some .directory else none

/-- The place to which names lead from a place. -/
def follow (t : FileTree) (place : List Text) : List Text → Except FileError (List Text)
  | [] => .ok place
  | name :: names =>
    match t.entry? place with
    | none => .error .notFound
    | some .directory =>
      if name = ".".toList then follow t place names
      else if name = "..".toList then follow t place.dropLast names
      else if nameLimit < Text.size name then .error .nameTooLong
      else follow t (place ++ [name]) names
    | some _ => .error .notADirectory

/-- The names in a path; a final slash counts as one more name `.`, which a directory alone has. -/
def names (p : Path) : List Text :=
  (p.text.splitOn '/').filter (!·.isEmpty) ++
    if p.text.getLast? = some '/' then [".".toList] else []

/-- The place to which an absolute path leads. -/
def locate (t : FileTree) (p : Path) : Except FileError (List Text) :=
  if p.text.any (· = '\x00') then .error .nulInPath
  else if p.text.isEmpty then .error .notFound
  else if pathLimit ≤ Text.size p.text then .error .nameTooLong
  else t.follow [] (names p)

/-- The text of the file at an absolute path. -/
def read (t : FileTree) (p : Path) : Except FileError Text := do
  match t.entry? (← t.locate p) with
  | none => .error .notFound
  | some .directory => .error .isDirectory
  | some .binary => .error .notText
  | some (.text s) => .ok s

/-- The tree with a text at a place. -/
def put (t : FileTree) (place : List Text) (s : Text) : FileTree :=
  ⟨t.entries.map fun e => if e.1 = place then (place, .text s) else e⟩

/-- The tree with the text of the file at an absolute path changed. Only a file that holds a text
can be changed. -/
def write (t : FileTree) (p : Path) (s : Text) : Except FileError FileTree := do
  let _ ← t.read p
  return t.put (← t.locate p) s

/-- A tree as a store of files. -/
def storage : Storage (StateM FileTree) where
  read p := fun t => (t.read p, t)
  write p s := fun t =>
    match t.write p s with
    | .ok u => (.ok (), u)
    | .error e => (.error e, t)

end FileTree

end GemDeps
