import GemDeps.Code.Value

/-!
# Version requirements

The version constraints of a declaration are the arguments that come first and are strings, or lists
of strings.

* `leadingVersions`: the constraints, and the arguments after them.
* `joinVersions`: the constraints as one requirement.
-/

namespace GemDeps

/-- The constraints that the arguments start with, and the arguments from the first one that gives
no constraint on. -/
def leadingVersions : List Text → List Text × List Text
  | [] => ([], [])
  | a :: as =>
    match (Value.read a).versions? with
    | none => ([], a :: as)
    | some vs => (vs ++ (leadingVersions as).1, (leadingVersions as).2)

/-- The constraints, trimmed and without empty ones, separated by a comma and a space. -/
def joinVersions (vs : List Text) : Option Text :=
  let kept := (vs.map Text.trim).filter (!·.isEmpty)
  if kept.isEmpty then none else some (Text.join ", ".toList kept)

end GemDeps
