import GemDeps.Json.Basic
import GemDeps.Json.Token

/-!
# Reading JSON

The tokens are read one by one against a stack of open arrays and objects.

* `Json.Reader.step`: the reader after a token.
* `Json.parse?`: the value that a text writes.
-/

namespace GemDeps.Json

/-- An array or object that is not closed yet. -/
inductive Frame
  /-- An array with its items so far, the last one first. -/
  | array (items : List Json)
  /-- An object with its members so far, the last one first, and the key that awaits its value. -/
  | object (members : List (Text × Json)) (key : Text)
  deriving Repr, Inhabited

/-- What may come next. -/
inductive Expected
  | value
  /-- The first item of an array, or its end. -/
  | firstItem
  /-- A key, after these members. -/
  | key (members : List (Text × Json))
  /-- The first key of an object, or its end. -/
  | firstKey
  /-- The colon after a key. -/
  | colon (members : List (Text × Json)) (key : Text)
  /-- What follows this value. -/
  | next (v : Json)
  deriving Repr, Inhabited

/-- The state of the reader: the open arrays and objects, the innermost first, and what may come
next. -/
structure Reader where
  /-- The open arrays and objects. -/
  frames : List Frame
  /-- What may come next. -/
  expected : Expected
  deriving Repr, Inhabited

namespace Reader

/-- The reader before the first token. -/
def initial : Reader := ⟨[], .value⟩

/-- The reader after a token that starts a value. -/
def beginValue? (fs : List Frame) : Token → Option Reader
  | .null => some ⟨fs, .next .null⟩
  | .bool b => some ⟨fs, .next (.bool b)⟩
  | .number n => some ⟨fs, .next (.number n)⟩
  | .string s => some ⟨fs, .next (.string s)⟩
  | .openArray => some ⟨fs, .firstItem⟩
  | .openObject => some ⟨fs, .firstKey⟩
  | _ => none

/-- The reader after a token that follows a value. -/
def continue? (v : Json) : List Frame → Token → Option Reader
  | .array items :: fs, .comma => some ⟨.array (v :: items) :: fs, .value⟩
  | .array items :: fs, .closeArray => some ⟨fs, .next (.array (v :: items).reverse)⟩
  | .object ms k :: fs, .comma => some ⟨fs, .key ((k, v) :: ms)⟩
  | .object ms k :: fs, .closeObject => some ⟨fs, .next (.object ((k, v) :: ms).reverse)⟩
  | _, _ => none

/-- The reader after a token; `none` if the token may not come. -/
def step (r : Reader) (k : Token) : Option Reader :=
  match r.expected, k with
  | .value, k => beginValue? r.frames k
  | .firstItem, .closeArray => some ⟨r.frames, .next (.array [])⟩
  | .firstItem, k => beginValue? (.array [] :: r.frames) k
  | .key ms, .string s => some ⟨r.frames, .colon ms s⟩
  | .firstKey, .string s => some ⟨r.frames, .colon [] s⟩
  | .firstKey, .closeObject => some ⟨r.frames, .next (.object [])⟩
  | .colon ms key, .colon => some ⟨.object ms key :: r.frames, .value⟩
  | .next v, k => continue? v r.frames k
  | _, _ => none

/-- The value that has been read, if nothing is open. -/
def result? (r : Reader) : Option Json :=
  match r.frames, r.expected with
  | [], .next v => some v
  | _, _ => none

end Reader

/-- The value that a sequence of tokens writes. -/
def ofTokens? (ks : List Token) : Option Json :=
  (ks.foldlM Reader.step .initial).bind Reader.result?

/-- The value that a text writes, with its strings and numbers as written. -/
def parse? (t : Text) : Option Json := (tokens? t).bind ofTokens?

end GemDeps.Json
