import GemDeps.Json.Basic

/-!
# Writing JSON

* `Json.compact`: a value on one line without white space.
* `Json.pretty`: a value with each item and member on a line of its own, indented by two spaces per
  level.
-/

namespace GemDeps.Json

/-- A string with its quotes. -/
def quoted (lexeme : Text) : Text := '"' :: (lexeme ++ ['"'])

/-- A value that is neither an array nor an object. -/
def scalarText : Json → Text
  | .null => "null".toList
  | .bool true => "true".toList
  | .bool false => "false".toList
  | .number n => n
  | .string s => quoted s
  | _ => []

/-! ## On one line -/

mutual

/-- A value on one line without white space. -/
def compact : Json → Text
  | .array items => '[' :: (compactItems items ++ [']'])
  | .object members => '{' :: (compactMembers members ++ ['}'])
  | j => scalarText j
termination_by structural j => j

/-- Items with commas between them. -/
def compactItems : List Json → Text
  | [] => []
  | [j] => compact j
  | j :: js => compact j ++ ',' :: compactItems js
termination_by structural js => js

/-- Members with commas between them. -/
def compactMembers : List (Text × Json) → Text
  | [] => []
  | [(k, j)] => quoted k ++ ':' :: compact j
  | (k, j) :: ms => quoted k ++ ':' :: compact j ++ ',' :: compactMembers ms
termination_by structural ms => ms

end

/-! ## On several lines -/

/-- A new line at a level of indentation. -/
def newLine (level : Nat) : Text := '\n' :: List.replicate (2 * level) ' '

mutual

/-- A value over several lines, inside `level` open arrays and objects. Empty ones stay on one
line. -/
def pretty (level : Nat) : Json → Text
  | .array [] => "[]".toList
  | .array (j :: js) => '[' :: (prettyItems (level + 1) (j :: js) ++ newLine level ++ [']'])
  | .object [] => ['{', '}']
  | .object (m :: ms) => '{' :: (prettyMembers (level + 1) (m :: ms) ++ newLine level ++ ['}'])
  | j => scalarText j
termination_by structural j => j

/-- Items, each on a line of its own. -/
def prettyItems (level : Nat) : List Json → Text
  | [] => []
  | [j] => newLine level ++ pretty level j
  | j :: js => newLine level ++ pretty level j ++ ',' :: prettyItems level js
termination_by structural js => js

/-- Members, each on a line of its own. -/
def prettyMembers (level : Nat) : List (Text × Json) → Text
  | [] => []
  | [(k, j)] => newLine level ++ quoted k ++ ": ".toList ++ pretty level j
  | (k, j) :: ms =>
    newLine level ++ quoted k ++ ": ".toList ++ pretty level j ++ ',' :: prettyMembers level ms
termination_by structural ms => ms

end

end GemDeps.Json
