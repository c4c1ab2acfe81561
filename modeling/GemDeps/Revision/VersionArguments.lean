import GemDeps.Code.Value

/-!
# Version arguments

The version arguments of a statement are the strings and lists of strings that follow the name, each
after a comma. A string that is the key of an option is none of them.

* `dropVersionArgument?`: a text without the version argument it starts with.
* `dropVersionArguments`: a text without all of those.
-/

namespace GemDeps

/-- The literal or list at the start of a text, and the rest. -/
def argumentToken? (t : Text) : Option (Text × Text) :=
  match Quoted.read? t with
  | some q => some (t.take (t.length - q.rest.length), q.rest)
  | none => if t.head? == some '[' then splitList? .code 0 t else none

/-- Does a text continue the key of an option: with `=>`, or with a colon that is not doubled? -/
def continuesKey (t : Text) : Bool :=
  match Text.trimStart t with
  | '=' :: '>' :: _ => true
  | ':' :: ':' :: _ => false
  | ':' :: _ => true
  | _ => false

/-- The text after the comma and the version argument that it starts with. -/
def dropVersionArgument? (t : Text) : Option Text :=
  match Text.trimStart t with
  | ',' :: r =>
    match argumentToken? (Text.trimStart r) with
    | some (token, rest) =>
      if (Value.read token).versions?.isSome && !continuesKey rest then some rest else none
    | none => none
  | _ => none

/-! ## Lengths -/

theorem length_splitList? {z : Zone} {d : Nat} {t a b : Text}
    (h : splitList? z d t = some (a, b)) : b.length ≤ t.length := by
  fun_induction splitList? z d t generalizing a b with
  | case1 => simp at h
  | case2 z d c t hz => simp_all
  | case3 z d c t hz ih =>
    obtain ⟨⟨u, v⟩, hv, he⟩ := Option.map_eq_some_iff.1 h
    cases he
    exact Nat.le_succ_of_le (ih hv)

theorem length_argumentToken? {t a b : Text} (h : argumentToken? t = some (a, b)) :
    b.length ≤ t.length := by
  unfold argumentToken? at h
  split at h
  · rename_i q hq
    cases h
    exact Nat.le_of_lt (Quoted.length_rest_lt hq)
  · split at h
    · exact length_splitList? h
    · simp at h

theorem length_dropVersionArgument? {t r : Text} (h : dropVersionArgument? t = some r) :
    r.length < t.length := by
  have ht := Text.length_trimStart_le t
  unfold dropVersionArgument? at h
  split at h
  · rename_i s hs
    rw [hs, List.length_cons] at ht
    split at h
    · rename_i token rest hr
      split at h
      · cases h
        have := length_argumentToken? hr
        have := Text.length_trimStart_le s
        omega
      · simp at h
    · simp at h
  · simp at h

/-! ## All version arguments -/

/-- The text without the version arguments that it starts with. -/
def dropVersionArguments (t : Text) : Text :=
  match _h : dropVersionArgument? t with
  | some r => dropVersionArguments r
  | none => t
termination_by t.length
decreasing_by exact length_dropVersionArgument? _h

/-- Does a text start with a version argument? -/
def hasVersionArgument (t : Text) : Bool := (dropVersionArgument? t).isSome

end GemDeps
