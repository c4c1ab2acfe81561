import GemDeps.Json.Datum
import GemDeps.Text.Shown

/-!
# The shape of requests

A request is written as a JSON value. Where the value is not what a request needs, the first
difference is reported.

* `ShapeError`: the differences.
* `Datum.asText`, `Datum.asBool`, `Datum.asTexts`, `Datum.asVariant`: what a datum means where a
  value of a kind is needed.
-/

namespace GemDeps

/-- How a JSON text differs from what is needed. -/
inductive ShapeError
  /-- It is no JSON text. -/
  | malformed
  /-- A field is not there. -/
  | missingField (name : Text)
  /-- A field is given twice. -/
  | duplicateField (name : Text)
  /-- Another kind of value is needed. -/
  | wrongKind (found : Datum) (expected : Text)
  /-- Where a name is needed there are members, and not one alone. -/
  | severalKeys
  /-- A name is none of those known. -/
  | unknownName (name : Text) (known : List Text)
  /-- The usual file is asked for by name. -/
  | usualRequire
  /-- Neither a path nor `false` says what is to be loaded. -/
  | noRequire
  /-- A list has no value for the field at this place. -/
  | shortList (length : Nat) (form : Text) (size : Nat)
  /-- A list has values beyond the last field. -/
  | longList (length size : Nat)
  deriving Repr

/-! ## Messages -/

/-- A datum as messages show it. -/
def Datum.description : Datum → Text
  | null => "null".toList
  | bool true => "boolean `true`".toList
  | bool false => "boolean `false`".toList
  | number (.integer n) => "integer `".toList ++ (Json.Number.integer n).text ++ "`".toList
  | number (.double f) => "floating point `".toList ++ (Json.Number.double f).text ++ "`".toList
  | text t => "string ".toList ++ t.shown
  | list _ => "sequence".toList
  | record _ => "map".toList

namespace ShapeError

/-- A name between backquotes. -/
def quoteName (name : Text) : Text := '`' :: (name ++ ['`'])

/-- The names of which one is needed. -/
def alternatives : List Text → Text
  | [a, b] => quoteName a ++ " or ".toList ++ quoteName b
  | names => "one of ".toList ++ Text.join ", ".toList (names.map quoteName)

/-- A number of elements. -/
def elements (n : Nat) : Text :=
  Text.decimal n ++ if n = 1 then " element".toList else " elements".toList

/-- The message about a difference. For a text that is no JSON at all, what a JSON reader says of it
and of the place where it stops is left open, and a fixed text stands for it. -/
def message : ShapeError → Text
  | malformed => "<malformed JSON>".toList
  | missingField name => "missing field ".toList ++ quoteName name
  | duplicateField name => "duplicate field ".toList ++ quoteName name
  | wrongKind found expected =>
    "invalid type: ".toList ++ found.description ++ ", expected ".toList ++ expected
  | severalKeys => "invalid value: map, expected map with a single key".toList
  | unknownName name known =>
    "unknown variant ".toList ++ quoteName name ++ ", expected ".toList ++ alternatives known
  | usualRequire => "`true` is the default; omit requireOption instead".toList
  | noRequire => "data did not match any variant of untagged enum RawRequire".toList
  | shortList length form size =>
    "invalid length ".toList ++ Text.decimal length ++ ", expected ".toList ++ form ++
      " with ".toList ++ elements size
  | longList length size =>
    "invalid length ".toList ++ Text.decimal length ++ ", expected ".toList ++ elements size ++
      " in sequence".toList

end ShapeError

/-! ## Values -/

namespace Datum

/-- A text; `expected` says what the text is needed for. -/
def asText (expected : Text) : Datum → Except ShapeError Text
  | text t => .ok t
  | d => .error (.wrongKind d expected)

/-- What messages call a text. -/
def textName : Text := "a string".toList

/-- A truth value. -/
def asBool : Datum → Except ShapeError Bool
  | bool b => .ok b
  | d => .error (.wrongKind d "a boolean".toList)

/-- A list of texts. -/
def asTexts : Datum → Except ShapeError (List Text)
  | list items => items.mapM (asText textName)
  | d => .error (.wrongKind d "a sequence".toList)

/-- What `null` stands for where a value may be left out. -/
def asOption (f : Datum → Except ShapeError α) : Datum → Except ShapeError (Option α)
  | null => .ok none
  | d => (f d).map some

/-- One of the known names. -/
def ofName (known : List (Text × α)) (name : Text) : Except ShapeError α :=
  match known.lookup name with
  | some a => .ok a
  | none => .error (.unknownName name (known.map (·.1)))

/-- A name may be the only key of a record, with nothing under it. -/
def checkNothing : Datum → Except ShapeError Unit
  | null | record [] => .ok ()
  | d => .error (.wrongKind d "unit".toList)

/-- One of the known names, alone or as the only key of a record. -/
def asVariant (known : List (Text × α)) : Datum → Except ShapeError α
  | text t => ofName known t
  | record [(k, d)] => do
    let a ← ofName known k
    checkNothing d
    return a
  | record _ => .error .severalKeys
  | d => .error (.wrongKind d "string or map".toList)

end Datum

end GemDeps
