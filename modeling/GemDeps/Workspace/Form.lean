import GemDeps.Manifest.Json
import GemDeps.Workspace.Request
import GemDeps.Workspace.Shape

/-!
# Reading requests

A request is a record with the name of its operation and the fields of that operation, or a list of
the same in a fixed order. The operation may stand anywhere in the record; it is settled first, then
the fields are read in the order in which they are given.

* `Operation`, `Field`: the operations and their fields.
* `Draft`: the fields that have been given so far.
* `Request.parse`: the request in a JSON text, or the first difference from one.
-/

namespace GemDeps

/-! ## Operations and fields -/

/-- The fields of requests. -/
inductive Field
  /-- The path of the manifest. -/
  | path
  /-- The kind to read it as. -/
  | kind
  /-- The name of the gem. -/
  | name
  | version
  /-- The operator in front of the version. -/
  | pinOperator
  | quoteStyle
  /-- Whether the dependency is for development. -/
  | development
  /-- The groups of the gem. -/
  | groups
  /-- The platforms of the gem. -/
  | platforms
  /-- The source of the gem. -/
  | source
  /-- What is loaded for the gem. -/
  | requireOption
  deriving DecidableEq, Repr

/-- The key of a field. -/
def Field.key : Field → Text
  | path => "path".toList
  | kind => "kind".toList
  | name => "name".toList
  | version => "version".toList
  | pinOperator => "pinOperator".toList
  | quoteStyle => "quoteStyle".toList
  | development => "development".toList
  | groups => "groups".toList
  | platforms => "platforms".toList
  | source => "source".toList
  | requireOption => "requireOption".toList

/-- The operations. -/
inductive Operation
  /-- Read a manifest. -/
  | read
  /-- Set a version constraint. -/
  | pin
  /-- Remove version constraints. -/
  | unpin
  /-- Declare a dependency in a gemspec. -/
  | addDependency
  /-- Declare a gem in a Gemfile. -/
  | addDeclaration
  deriving DecidableEq, Repr

namespace Operation

/-- The key under which the operation is named. -/
def key : Text := "operation".toList

/-- The operations with their names. -/
def names : List (Text × Operation) :=
  [("read".toList, read), ("pin".toList, pin), ("unpin".toList, unpin),
    ("addDependency".toList, addDependency), ("addDeclaration".toList, addDeclaration)]

/-- What messages call the form of an operation. -/
def formName : Operation → Text
  | read => "struct variant ToolRequest::Read".toList
  | pin => "struct variant ToolRequest::Pin".toList
  | unpin => "struct variant ToolRequest::Unpin".toList
  | addDependency => "struct variant ToolRequest::AddDependency".toList
  | addDeclaration => "struct variant ToolRequest::AddDeclaration".toList

/-- The fields of an operation, in the order of a list. -/
def fields : Operation → List Field
  | read => [.path, .kind]
  | pin => [.path, .name, .version, .pinOperator, .quoteStyle]
  | unpin => [.path, .name]
  | addDependency => [.path, .name, .version, .pinOperator, .development, .quoteStyle]
  | addDeclaration =>
    [.path, .name, .version, .pinOperator, .groups, .platforms, .source, .requireOption,
      .quoteStyle]

/-- Does an operation need this field? -/
def needs (op : Operation) (f : Field) : Bool :=
  f = .path || (f = .name && op ≠ .read) || (f = .version && op = .pin)

/-- The operation that a datum names. -/
def ofDatum : Datum → Except ShapeError Operation
  | .text t => Datum.ofName names t
  | d => .error (.wrongKind d "variant identifier".toList)

end Operation

/-! ## Drafts -/

/-- The fields of a request that have been given. -/
structure Draft where
  /-- Which fields have been given. -/
  given : List Field := []
  /-- The path of the manifest. -/
  path : Text := []
  /-- The kind to read it as. -/
  kind : Option Kind := none
  /-- The name of the gem. -/
  name : Text := []
  version : Option Text := none
  /-- The operator in front of the version. -/
  pinOperator : Option Operator := none
  quoteStyle : Option QuoteStyle := none
  /-- Whether the dependency is for development. -/
  development : Bool := false
  /-- The groups of the gem. -/
  groups : List Text := []
  /-- The platforms of the gem. -/
  platforms : List Text := []
  /-- The source of the gem. -/
  source : Option Text := none
  /-- What is loaded for the gem. -/
  requireOption : Option RequireOption := none
  deriving Repr

/-- The operators with their names in requests. -/
def Operator.names : List (Text × Operator) := all.map fun op => (op.text, op)

/-- What is loaded for a gem. -/
def RequireOption.ofDatum : Datum → Except ShapeError RequireOption
  | .bool false => .ok .disabled
  | .bool true => .error .usualRequire
  | .text t => .ok (.path t)
  | _ => .error .noRequire

namespace Draft

/-- The version in a request; one that is needed cannot be `null`. -/
def readVersion (op : Operation) (d : Datum) : Except ShapeError (Option Text) :=
  if op.needs .version then (d.asText Datum.textName).map some
  else d.asOption (Datum.asText Datum.textName)

/-- The draft with the value of a field. -/
def put (op : Operation) (r : Draft) (d : Datum) : Field → Except ShapeError Draft
  | .path => return { r with path := ← d.asText "path string".toList }
  | .kind => return { r with kind := ← d.asOption (Datum.asVariant Kind.names) }
  | .name => return { r with name := ← d.asText Datum.textName }
  | .version => return { r with version := ← readVersion op d }
  | .pinOperator =>
    return { r with pinOperator := ← d.asOption (Datum.asVariant Operator.names) }
  | .quoteStyle => return { r with quoteStyle := ← d.asOption (Datum.asVariant QuoteStyle.names) }
  | .development => return { r with development := ← d.asBool }
  | .groups => return { r with groups := ← d.asTexts }
  | .platforms => return { r with platforms := ← d.asTexts }
  | .source => return { r with source := ← d.asOption (Datum.asText Datum.textName) }
  | .requireOption => return { r with requireOption := ← d.asOption RequireOption.ofDatum }

/-- The draft with one more field given. -/
def give (op : Operation) (r : Draft) (f : Field) (d : Datum) : Except ShapeError Draft := do
  if f ∈ r.given then .error (.duplicateField f.key)
  else put op { r with given := f :: r.given } d f

/-- The draft with a member of a record. A key that is no field is passed over. -/
def giveMember (op : Operation) (r : Draft) (m : Text × Datum) : Except ShapeError Draft :=
  match op.fields.find? (·.key = m.1) with
  | some f => give op r f m.2
  | none => .ok r

/-- Are all fields given that the operation needs? -/
def checkGiven (op : Operation) (r : Draft) : Except ShapeError Unit :=
  match op.fields.find? fun f => op.needs f && f ∉ r.given with
  | some f => .error (.missingField f.key)
  | none => .ok ()

/-- The draft for the members of a record. -/
def ofMembers (op : Operation) (members : List (Text × Datum)) : Except ShapeError Draft := do
  let r ← members.foldlM (giveMember op) {}
  checkGiven op r
  return r

/-- The draft with the values of a list given to the fields, from the field at `place` on. -/
def giveInOrder (op : Operation) (size place : Nat) (r : Draft) :
    List Field → List Datum → Except ShapeError Draft
  | [], [] => .ok r
  | [], ds => .error (.longList (place + ds.length) place)
  | f :: fs, d :: ds => do
    let r ← give op r f d
    giveInOrder op size (place + 1) r fs ds
  | f :: fs, [] =>
    if op.needs f then .error (.shortList place op.formName size)
    else giveInOrder op size place r fs []

/-- The draft for the items of a list. -/
def ofItems (op : Operation) (items : List Datum) : Except ShapeError Draft :=
  giveInOrder op op.fields.length 0 {} op.fields items

/-- What a dependency is declared with. -/
def dependencyOptions (r : Draft) : DeclarationOptions :=
  { version := r.version, operator := r.pinOperator
    groups := if r.development then [developmentGroup] else []
    platforms := [], source := none, require := none }

/-- What a gem is declared with. -/
def declarationOptions (r : Draft) : DeclarationOptions :=
  { version := r.version, operator := r.pinOperator, groups := r.groups, platforms := r.platforms
    source := r.source, require := r.requireOption }

/-- The action of a draft. -/
def action (r : Draft) : Operation → Action
  | .read => .read r.kind
  | .pin => .pin r.name (r.version.getD []) r.pinOperator r.quoteStyle
  | .unpin => .unpin r.name
  | .addDependency => .addDependency r.name r.dependencyOptions r.quoteStyle
  | .addDeclaration => .addDeclaration r.name r.declarationOptions r.quoteStyle

end Draft

/-! ## Requests -/

namespace Request

/-- The operation that the members of a record name, once. -/
def operationOf (members : List (Text × Datum)) : Except ShapeError Operation := do
  let step (found : Option Operation) (m : Text × Datum) : Except ShapeError (Option Operation) :=
    if m.1 = Operation.key then
      if found.isSome then .error (.duplicateField Operation.key)
      else (Operation.ofDatum m.2).map some
    else .ok found
  match ← members.foldlM step none with
  | some op => return op
  | none => .error (.missingField Operation.key)

/-- The request that a datum writes. -/
def ofDatum : Datum → Except ShapeError Request
  | .record members => do
    let op ← operationOf members
    let r ← Draft.ofMembers op members
    return ⟨⟨r.path⟩, r.action op⟩
  | .list [] => .error (.missingField Operation.key)
  | .list (d :: items) => do
    let op ← Operation.ofDatum d
    let r ← Draft.ofItems op items
    return ⟨⟨r.path⟩, r.action op⟩
  | d => .error (.wrongKind d "internally tagged enum ToolRequest".toList)

/-- The request in a JSON text. -/
def parse (t : Text) : Except ShapeError Request :=
  match Datum.parse? t with
  | some d => ofDatum d
  | none => .error .malformed

end Request

end GemDeps
