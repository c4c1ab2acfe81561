import GemDeps.Code.Zone

/-!
# Comments

A `#` outside quotes starts a comment that runs to the end of the line.

* `splitComment`: a line's code and its comment.
* `stripComment`: the code alone.
* `commentStart?`: where the comment starts, if there is one.
-/

namespace GemDeps

/-- The code of a line that starts in zone `z`, and its comment from the `#` on. -/
def splitComment (z : Zone) : Text → Text × Text
  | [] => ([], [])
  | c :: t =>
    if z.isCode && c == '#' then ([], c :: t)
    else (c :: (splitComment (z.next c) t).1, (splitComment (z.next c) t).2)

/-- The code of a line, without its comment. -/
def stripComment (line : Text) : Text := (splitComment .code line).1

/-- The byte offset of the `#` that starts the comment. -/
def commentStart? (line : Text) : Option Nat :=
  if (splitComment .code line).2.isEmpty then none else some (stripComment line).size

theorem splitComment_append (z : Zone) (t : Text) :
    (splitComment z t).1 ++ (splitComment z t).2 = t := by
  fun_induction splitComment z t with
  | case1 => rfl
  | case2 => rfl
  | case3 z c t hz ih => simpa using ih

end GemDeps
