import GemDeps.Json.Escape

/-!
# JSON tokens

A JSON text is a sequence of tokens with white space between them.

* `Json.Token`: the tokens; strings and numbers are kept as written.
* `Json.isNumber`: the written forms of numbers.
* `Json.tokens?`: the tokens of a text.
-/

namespace GemDeps.Json

/-- The smallest parts of a JSON text. -/
inductive Token
  | openObject
  | closeObject
  | openArray
  | closeArray
  | colon
  | comma
  | null
  | bool (b : Bool)
  | number (lexeme : Text)
  /-- What is written between the quotes of a string. -/
  | string (lexeme : Text)
  deriving DecidableEq, Repr, Inhabited

/-! ## Numbers -/

/-- The characters that numbers are written with. -/
def isNumberChar (c : Char) : Bool :=
  c.isDigit || c == '-' || c == '+' || c == '.' || c == 'e' || c == 'E'

/-- Are there digits, and nothing else? -/
def isDigits (t : Text) : Bool := !t.isEmpty && t.all Char.isDigit

/-- The text after a leading `c`, if there is one. -/
def dropOptional (p : Char → Bool) : Text → Text
  | [] => []
  | c :: t => if p c then t else c :: t

/-- Is a text nothing, or an exponent: `e` or `E`, an optional sign, and digits? -/
def isExponent : Text → Bool
  | [] => true
  | c :: t => (c == 'e' || c == 'E') && isDigits (dropOptional (fun s => s == '+' || s == '-') t)

/-- Is a text nothing, or a fraction with an optional exponent? -/
def isFraction : Text → Bool
  | '.' :: t => isDigits (t.takeWhile Char.isDigit) && isExponent (t.dropWhile Char.isDigit)
  | t => isExponent t

/-- Is a text written as a number? A zero in front of other digits is not allowed. -/
def isNumber (t : Text) : Bool :=
  let u := dropOptional (· == '-') t
  let whole := u.takeWhile Char.isDigit
  (whole == ['0'] || (isDigits whole && whole.head? != some '0')) &&
    isFraction (u.dropWhile Char.isDigit)

/-! ## Tokens -/

/-- The white space of JSON. -/
def isSpace (c : Char) : Bool := c == ' ' || c == '\n' || c == '\t' || c == '\r'

/-- The words, with their tokens. -/
def words : List (Text × Token) :=
  [("null".toList, .null), ("true".toList, .bool true), ("false".toList, .bool false)]

/-- The word at the start of a text. -/
def splitWord? (t : Text) : Option (Token × Text) :=
  words.findSome? fun w => (w.1.isPrefixOf? t).map (w.2, ·)

/-- The token that a character is by itself. -/
def punctuation? (c : Char) : Option Token :=
  match c with
  | '{' => some .openObject
  | '}' => some .closeObject
  | '[' => some .openArray
  | ']' => some .closeArray
  | ':' => some .colon
  | ',' => some .comma
  | _ => none

/-- The token at the start of a text that does not start with white space, and the rest. -/
def splitToken? (c : Char) (t : Text) : Option (Token × Text) :=
  match punctuation? c with
  | some k => some (k, t)
  | none =>
    if c = '"' then (splitString? t).map fun p => (.string p.1, p.2)
    else if isNumberChar c then
      let n := c :: t.takeWhile isNumberChar
      if isNumber n then some (.number n, t.dropWhile isNumberChar) else none
    else splitWord? (c :: t)

theorem length_of_splitWord? {t u : Text} {k : Token} (h : splitWord? t = some (k, u)) :
    u.length < t.length := by
  obtain ⟨w, hw, h⟩ := List.exists_of_findSome?_eq_some h
  obtain ⟨v, hv, he⟩ := Option.map_eq_some_iff.1 h
  cases he
  have hne : w.1 ≠ [] := by
    simp only [words, List.mem_cons, List.not_mem_nil, or_false] at hw
    rcases hw with rfl | rfl | rfl <;> simp
  have := List.length_pos_iff.2 hne
  rw [Text.isPrefixOf?_eq_some_iff.1 hv, List.length_append]
  omega

theorem length_of_splitToken? {c : Char} {t u : Text} {k : Token}
    (h : splitToken? c t = some (k, u)) : u.length < t.length + 1 := by
  unfold splitToken? at h
  split at h
  · cases h; omega
  · split at h
    · obtain ⟨p, hp, he⟩ := Option.map_eq_some_iff.1 h
      cases he
      have := length_lt_of_splitString? hp
      omega
    · split at h
      · simp only [Option.ite_none_right_eq_some, Option.some.injEq, Prod.mk.injEq] at h
        rw [← h.2.2]
        exact Nat.lt_succ_of_le (List.dropWhile_sublist isNumberChar).length_le
      · exact length_of_splitWord? h

/-- The tokens of a text. -/
def tokens? (t : Text) : Option (List Token) :=
  match t with
  | [] => some []
  | c :: t =>
    if isSpace c then tokens? t
    else
      match _h : splitToken? c t with
      | none => none
      | some (k, u) => (tokens? u).map (k :: ·)
termination_by t.length
decreasing_by
  · simp
  · exact length_of_splitToken? _h

end GemDeps.Json
