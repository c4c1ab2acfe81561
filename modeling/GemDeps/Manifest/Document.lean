import GemDeps.Manifest.Kind

/-!
# Documents

What a manifest says: its kind, the language version it asks for, the server gems come from by
default, and its declarations in order.

* `Declaration`: one declared dependency.
* `Document`: the declarations of a manifest with what holds for all of them.
* `Document.find?`: the first declaration of a name.
-/

namespace GemDeps

/-- What is loaded for a gem, when not the file named like it. -/
inductive RequireOption
  /-- Nothing. -/
  | disabled
  /-- The file at this path. -/
  | path (p : Text)
  deriving DecidableEq, Repr, Inhabited

/-- A declared dependency. -/
structure Declaration where
  /-- The name of the gem. -/
  name : Text
  /-- The version constraints, separated by a comma and a space. -/
  versionRequirement : Option Text
  /-- Where the gem comes from, when not from the default server. -/
  source : Option Text
  /-- The groups the gem belongs to. -/
  groups : List Text
  /-- The platforms the gem is restricted to. -/
  platforms : List Text
  /-- What is loaded for the gem. -/
  requireOption : Option RequireOption
  /-- The line of the declaration, counted from zero, as a 32-bit number. -/
  line : UInt32
  deriving DecidableEq, Repr, Inhabited

/-- The group under which development dependencies of a gemspec are listed. -/
def developmentGroup : Text := "development".toList

namespace Declaration

/-- Is the gem declared for development? -/
def isDevelopment (d : Declaration) : Bool := d.groups.contains developmentGroup

end Declaration

/-- What a manifest says. -/
structure Document where
  /-- The kind of the manifest. -/
  kind : Kind
  /-- The file it was read from. -/
  path : Option Path
  /-- The version of the language that the manifest asks for. -/
  languageVersion : Option Text
  /-- The server that gems come from by default. -/
  defaultSource : Option Text
  /-- The declarations, in the order of their lines. -/
  declarations : List Declaration
  deriving DecidableEq, Repr, Inhabited

namespace Document

/-- The document of an empty manifest. -/
def empty (kind : Kind) : Document := ⟨kind, none, none, none, []⟩

/-- The first declaration of a name. -/
def find? (d : Document) (name : Text) : Option Declaration :=
  d.declarations.find? (·.name = name)

end Document

end GemDeps
