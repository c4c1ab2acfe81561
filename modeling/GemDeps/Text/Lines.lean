import GemDeps.Text.Basic

/-!
# Lines of a text

Two views. `lines` gives what stands on each line; a line ends at a line feed, and one carriage
return right before that line feed belongs to the line's end. `pieces` cuts after each line feed and
loses nothing.

* `flatten_pieces`: the pieces of a text, put together, are the text.
-/

namespace GemDeps.Text

/-- What stands on each line, without line ends. A last line without a line feed counts as a line
and keeps a trailing carriage return. -/
def lines : Text → List Text
  | [] => []
  | '\n' :: t => [] :: lines t
  | '\r' :: '\n' :: t => [] :: lines t
  | c :: t =>
    match lines t with
    | [] => [[c]]
    | l :: ls => (c :: l) :: ls

/-- The text cut after each line feed. -/
def pieces : Text → List Text
  | [] => []
  | c :: t =>
    if c = '\n' then [c] :: pieces t
    else
      match pieces t with
      | [] => [[c]]
      | p :: ps => (c :: p) :: ps

theorem flatten_pieces (t : Text) : (pieces t).flatten = t := by
  fun_induction pieces t with
  | case1 => rfl
  | case2 t ih => simp [ih]
  | case3 c t _ h ih => simp [h] at ih; simp [← ih]
  | case4 c t _ p ps h ih => simp [h] at ih; simp [← ih]

end GemDeps.Text
