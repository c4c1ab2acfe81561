import GemDeps.Code.Arguments
import GemDeps.Code.Quoted
import GemDeps.Text.Word

/-!
# Literal values

The values an argument can be written as: a string, a symbol, a list, a truth value, `nil`, or code
that is none of these and is kept as it stands.

* `Value.read`: the value of an argument.
* `Value.pair?`: an option with its key, `key: value` or `key => value`.
* `Value.nameList`: the names in an argument list.
-/

namespace GemDeps

/-- The value of an argument. -/
inductive Value
  /-- A quoted string, or a word of a word list. -/
  | str (text : Text)
  /-- A symbol, without its colon. -/
  | symbol (name : Text)
  | list (items : List Value)
  | bool (b : Bool)
  | nil
  /-- Code that is no literal. -/
  | other (code : Text)
  deriving Repr, BEq, Inhabited

namespace Value

/-! ## Contents -/

/-- What a string or a symbol says. -/
def text? : Value → Option Text
  | str t | symbol t => some t
  | _ => none

/-- What a value says, member by member if it is a list. -/
def names : Value → List Text
  | list items => items.filterMap text?
  | v => v.text?.toList

/-- What a string says. -/
def str? : Value → Option Text
  | str t => some t
  | _ => none

/-- The version constraints a value gives: a string gives one, and a list of one or more strings
gives its members. -/
def versions? : Value → Option (List Text)
  | str t => some [t]
  | list items => if items.isEmpty then none else items.mapM str?
  | _ => none

/-! ## Reading -/

/-- The words in a pair of brackets, after `%w` or `%i`. -/
def wordList? (t : Text) : Option (List Text) :=
  (Text.between? '[' ']' t <|> Text.between? '(' ')' t <|> Text.between? '{' '}' t <|>
    Text.between? '<' '>' t).map Text.words

/-- A value that is neither a string nor a list in square brackets. -/
def readScalar (t : Text) : Value :=
  let word : Value :=
    if t = "true".toList then bool true
    else if t = "false".toList then bool false
    else if t = "nil".toList then nil
    else other t
  match t with
  | '%' :: 'w' :: r => ((wordList? r).map fun ws => list (ws.map str)).getD word
  | '%' :: 'i' :: r => ((wordList? r).map fun ws => list (ws.map symbol)).getD word
  | ':' :: r =>
    match Quoted.whole? r with
    | some name => symbol name
    | none =>
      if Text.isIdentifier (Text.dropEndWhile (fun c => c == '?' || c == '!') r) then symbol r
      else word
  | _ => word

/-- The value of an argument. -/
def read (t : Text) : Value :=
  match Quoted.whole? t.trim with
  | some s => str s
  | none =>
    match _h : Text.between? '[' ']' t.trim with
    | some inner => list ((splitArguments inner).attach.map fun p => read p.1)
    | none => readScalar t.trim
termination_by t.length
decreasing_by
  have h₁ := length_le_of_mem_splitArguments p.2
  have h₂ := congrArg List.length (Text.eq_of_between? _h)
  have h₃ := Text.length_trim_le t
  simp only [List.length_cons, List.length_append, List.length_nil] at h₂
  omega

/-! ## Options and names -/

/-- An option that starts with a bare key and a colon. -/
def bareKey? (t : Text) : Option (Text × Value) :=
  let key := t.takeWhile (· != ':')
  match t.dropWhile (· != ':') with
  | [] => none
  | _ :: r => if Text.isIdentifier key && r.head? != some ':' then some (key, read r) else none

/-- An option with its key: `key => value`, `'key': value` or `key: value`. -/
def pair? (t : Text) : Option (Text × Value) :=
  match splitArrow? .code t.trim with
  | some (k, v) => (read k).text?.map fun key => (key, read v)
  | none =>
    match Quoted.read? t.trim with
    | some ⟨_, key, ':' :: r⟩ => some (key, read r)
    | _ => bareKey? t.trim

/-- The names in an argument list, each once; options are passed over. -/
def nameList (t : Text) : List Text :=
  Text.union [] (((splitArguments t).filter fun a => (pair? a).isNone).flatMap fun a =>
    (read a).names)

end Value

end GemDeps
