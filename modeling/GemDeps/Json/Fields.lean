import GemDeps.Json.Basic
import GemDeps.Json.Escape
import GemDeps.Text.Decimal

/-!
# Records in JSON

A record is written as an object with its fields as members, or as an array of its fields in order.
Members that are no fields are passed over; a field written twice is an error.

* `Json.fields?`: the values of a record's fields, all of which an array has to give.
* `Json.defaultedFields?`: the same for a record all of whose fields may be left out.
* `Json.required?`, `Json.optional?`: a field that has to be there, and one that need not.
* `Json.text?`, `Json.texts?`, `Json.word32?`, `Json.variant?`: what a value means.
-/

namespace GemDeps.Json

/-! ## Fields -/

/-- The members of an object with the keys that are meant. -/
def decodeKeys? (members : List (Text × Json)) : Option (List (Text × Json)) :=
  members.mapM fun m => (unescape? m.1).map (·, m.2)

/-- The value of the member with this key. -/
def member? (members : List (Text × Json)) (key : Text) : Option Json :=
  (members.find? (·.1 = key)).map (·.2)

/-- Is there more than one member with this key? -/
def isRepeated (members : List (Text × Json)) (key : Text) : Bool :=
  1 < members.countP (·.1 = key)

/-- The values of the named fields of a record, in the order of `names`; a field that is not there
gives `none`. An array has to give all fields. -/
def fields? (names : List Text) : Json → Option (List (Option Json))
  | .object members =>
    match decodeKeys? members with
    | some ms => if names.any (isRepeated ms) then none else some (names.map (member? ms))
    | none => none
  | .array items => if items.length = names.length then some (items.map some) else none
  | _ => none

/-- The values of the named fields of a record all of which may be left out; an array may end before
the last of them. -/
def defaultedFields? (names : List Text) : Json → Option (List (Option Json))
  | .array items =>
    if items.length ≤ names.length then
      some (items.map some ++ List.replicate (names.length - items.length) none)
    else none
  | j => fields? names j

/-- The value of a field that has to be there. -/
def required? (f : Json → Option α) : Option Json → Option α
  | some j => f j
  | none => none

/-- The value of a field that may be left out or be `null`. -/
def optional? (f : Json → Option α) : Option Json → Option (Option α)
  | none | some .null => some none
  | some j => (f j).map some

/-! ## Values -/

/-- The text that a string writes. -/
def text? : Json → Option Text
  | .string s => unescape? s
  | _ => none

/-- The texts that an array of strings writes. -/
def texts? : Json → Option (List Text)
  | .array items => items.mapM text?
  | _ => none

/-- The number below 2^32 that is written without sign, fraction and exponent. -/
def word32? : Json → Option UInt32
  | .number n =>
    if n.all Char.isDigit && Text.decimalValue n < Nat.pow 2 32 then
      some (.ofNat (Text.decimalValue n))
    else none
  | _ => none

/-- One of several named values: its name, or an object with its name as the only key and `null` as
the value. -/
def variant? (names : List (Text × α)) (j : Json) : Option α :=
  let name : Option Text :=
    match j with
    | .string s => unescape? s
    | .object [(k, .null)] => unescape? k
    | _ => none
  name.bind fun n => (names.find? (·.1 = n)).map (·.2)

end GemDeps.Json
