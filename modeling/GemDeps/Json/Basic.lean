import GemDeps.Text.Basic

/-!
# JSON values

A JSON value as written: strings and numbers are kept in their written form, and the members of an
object in their order, repeated keys included. What a string or a number means is a question of its
own (`Datum`), since a reader that passes over a member never asks it.

* `Json`: the values.
* `Json.depth`: how deep arrays and objects are nested.
-/

namespace GemDeps

/-- A JSON value as written. -/
inductive Json
  | null
  | bool (b : Bool)
  | number (lexeme : Text)
  /-- A string: what is written between its quotes. -/
  | string (lexeme : Text)
  | array (items : List Json)
  /-- An object, with its keys as written. -/
  | object (members : List (Text × Json))
  deriving Repr, BEq, Inhabited

namespace Json

mutual

/-- How deep arrays and objects are nested. -/
def depth : Json → Nat
  | array items => itemsDepth items + 1
  | object members => membersDepth members + 1
  | _ => 0
termination_by structural j => j

/-- How deep the deepest of some items is. -/
def itemsDepth : List Json → Nat
  | [] => 0
  | j :: js => max (depth j) (itemsDepth js)
termination_by structural js => js

/-- How deep the deepest of some members is. -/
def membersDepth : List (Text × Json) → Nat
  | [] => 0
  | (_, j) :: ms => max (depth j) (membersDepth ms)
termination_by structural ms => ms

end

end Json

end GemDeps
