import GemDeps.Url.Parser

/-!
# Where a gem comes from

A source is written under one of three keys. An address, a URL or one of a form that only the
version control tool knows, is a repository; a text that starts like a directory is a path; anything
else is the name of a server.

* `Origin.ofSource`: the key for a source.
-/

namespace GemDeps

/-- What a source names. -/
inductive Origin
  /-- A repository. -/
  | git
  /-- A directory. -/
  | path
  | server
  deriving DecidableEq, Repr, Inhabited

namespace Origin

/-- How repository addresses that are no URLs may start. -/
def repositoryMarks : List Text := ["git@".toList, "git:".toList]

/-- How directories start. -/
def directoryMarks : List Text := ["/".toList, "./".toList, "../".toList, "~/".toList]

/-- What a source names. -/
def ofSource (source : Text) : Origin :=
  if repositoryMarks.any (·.isPrefixOf source) || Url.isValid source then git
  else if directoryMarks.any (·.isPrefixOf source) then path
  else server

/-- The key under which a source is written. -/
def key : Origin → Text
  | git => "git".toList
  | path => "path".toList
  | server => "source".toList

end Origin

end GemDeps
