import GemDeps.Json.Escape
import GemDeps.Json.Number
import GemDeps.Json.Parser

/-!
# What JSON values mean

A datum is a JSON value with the meaning of its strings and numbers in place of their written forms.

* `Datum`: the values.
* `Datum.parse?`: the datum that a text writes. Malformed strings, numbers too large for a double
  and nesting beyond a limit are refused anywhere in it.
-/

namespace GemDeps

/-- The meaning of a JSON value. -/
inductive Datum
  | null
  | bool (b : Bool)
  | number (n : Json.Number)
  | text (t : Text)
  | list (items : List Datum)
  /-- Members under keys, in order; keys may repeat. -/
  | record (members : List (Text × Datum))
  deriving Repr, Inhabited

namespace Datum

mutual

/-- The meaning of a JSON value. -/
def ofJson? : Json → Option Datum
  | .null => some .null
  | .bool b => some (.bool b)
  | .number n => (Json.Number.read? n).map .number
  | .string s => (Json.unescape? s).map .text
  | .array items => (ofItems? items).map .list
  | .object members => (ofMembers? members).map .record
termination_by structural j => j

/-- The meaning of items. -/
def ofItems? : List Json → Option (List Datum)
  | [] => some []
  | j :: js => do
    let d ← ofJson? j
    let ds ← ofItems? js
    return d :: ds
termination_by structural js => js

/-- The meaning of members. -/
def ofMembers? : List (Text × Json) → Option (List (Text × Datum))
  | [] => some []
  | (k, j) :: ms => do
    let key ← Json.unescape? k
    let d ← ofJson? j
    let ds ← ofMembers? ms
    return (key, d) :: ds
termination_by structural ms => ms

end

/-- How deep arrays and objects may be nested. -/
def depthLimit : Nat := 127

/-- The datum that a text writes. -/
def parse? (t : Text) : Option Datum := do
  let j ← Json.parse? t
  if j.depth ≤ depthLimit then ofJson? j else none

end Datum

end GemDeps
