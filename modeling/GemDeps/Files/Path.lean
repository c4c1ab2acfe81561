import GemDeps.Text.Basic

/-!
# Paths

A path is text; slashes separate its components. Repeated slashes count as one, and a component `.`
that is not the first names nothing.

* `Path.fileName?`: the last component, if it names a file.
* `Path.join`: a path taken from a directory.
* `Path.absolute`: a path taken from the working directory, without `.` components.
-/

namespace GemDeps

/-- A path, as written. -/
structure Path where
  /-- The text of the path. -/
  text : Text
  deriving DecidableEq, Repr, Inhabited

namespace Path

/-- Does the path start at the root? -/
def isAbsolute (p : Path) : Bool := p.text.head? == some '/'

/-- The components between slashes; empty ones and `.` are left out. -/
def components (p : Path) : List Text :=
  (p.text.splitOn '/').filter fun c => !c.isEmpty && c ≠ ['.']

/-- The last component, unless it is `..` or there is none. -/
def fileName? (p : Path) : Option Text :=
  match p.components.getLast? with
  | some c => if c = "..".toList then none else some c
  | none => none

/-- `p` taken from the directory `dir`; an absolute `p` stands for itself. -/
def join (dir p : Path) : Path :=
  if p.isAbsolute || dir.text.isEmpty then p
  else if dir.text.getLast? == some '/' then ⟨dir.text ++ p.text⟩
  else ⟨dir.text ++ '/' :: p.text⟩

/-- The slashes at the start of an absolute path: two are kept as two, any other number is one. -/
def root (t : Text) : Text :=
  if (t.takeWhile (· == '/')).length = 2 then ['/', '/'] else ['/']

/-- The path from the root with its components, and a final slash if the path ends in one. -/
def normal (p : Path) : Path :=
  let body := Text.join ['/'] p.components
  let tail : Text := if p.text.getLast? == some '/' && !body.isEmpty then ['/'] else []
  ⟨root p.text ++ body ++ tail⟩

/-- The path taken from the working directory `cwd`. An empty path stays empty. -/
def absolute (cwd p : Path) : Path :=
  if p.text.isEmpty then p else normal (join cwd p)

end Path

end GemDeps
