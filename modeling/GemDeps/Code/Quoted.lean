import GemDeps.Code.Zone

/-!
# Quoted literals

A quoted literal runs from a quote to the next quote of the same style that no backslash protects.
Its value is what stands between them, backslashes kept.

* `Quoted.read?`: the literal at the start of a text, after spaces and tabs.
* `Quoted.whole?`: the value of a text that is one literal and nothing else.
* `Quoted.all`: the values of the literals of a text, in order.
-/

namespace GemDeps

/-- A quoted literal and the text after it. -/
structure Quoted where
  /-- The quotes around it. -/
  style : QuoteStyle
  /-- What stands between the quotes. -/
  value : Text
  /-- The text after the closing quote. -/
  rest : Text
  deriving DecidableEq, Repr

namespace Quoted

/-- Cuts a text at the quote that ends the literal in which it starts; the quote is dropped. -/
def close? (z : Zone) : Text → Option (Text × Text)
  | [] => none
  | c :: t =>
    if (z.next c).isCode then some ([], t)
    else (close? (z.next c) t).map fun p => (c :: p.1, p.2)

/-- The characters allowed before a literal. -/
def isGap (c : Char) : Bool := c == ' ' || c == '\t'

/-- The literal at the start of a text, after spaces and tabs. -/
def read? (t : Text) : Option Quoted :=
  match t.dropWhile isGap with
  | [] => none
  | c :: r =>
    match QuoteStyle.ofMark? c with
    | none => none
    | some q => (close? (.literal q) r).map fun p => ⟨q, p.1, p.2⟩

/-- The literal at byte offset `start`, with the offset just past its closing quote. -/
def readAt? (t : Text) (start : Nat) : Option (Quoted × Nat) := do
  let q ← read? (← Text.dropBytes? start t)
  return (q, Text.size t - Text.size q.rest)

/-- The value of a text that is one literal and nothing else. -/
def whole? (t : Text) : Option Text :=
  match read? t with
  | some q => if q.rest.isEmpty then some q.value else none
  | none => none

/-! ## Lengths -/

theorem length_lt_of_close? {z : Zone} {t a b : Text} (h : close? z t = some (a, b)) :
    b.length < t.length := by
  fun_induction close? z t generalizing a b with
  | case1 => simp at h
  | case2 z c t hz => simp_all
  | case3 z c t hz ih =>
    obtain ⟨⟨u, v⟩, hv, he⟩ := Option.map_eq_some_iff.1 h
    cases he
    have := ih hv
    simp only [List.length_cons]; omega

theorem length_rest_lt {t : Text} {q : Quoted} (h : read? t = some q) :
    q.rest.length < t.length := by
  have hd := (List.dropWhile_sublist (l := t) isGap).length_le
  unfold read? at h
  split at h
  · simp at h
  · rename_i c r hr
    split at h
    · simp at h
    · obtain ⟨⟨u, v⟩, hv, rfl⟩ := Option.map_eq_some_iff.1 h
      have := length_lt_of_close? hv
      rw [hr, List.length_cons] at hd
      show v.length < _
      omega

/-! ## All literals of a text -/

/-- Is `c` no quote? -/
def isNoMark (c : Char) : Bool := (QuoteStyle.ofMark? c).isNone

/-- The values of the literals of a text, in order, up to the first quote that nothing closes. -/
def all (t : Text) : List Text :=
  match _h : read? (t.dropWhile isNoMark) with
  | none => []
  | some q => q.value :: all q.rest
termination_by t.length
decreasing_by
  exact Nat.lt_of_lt_of_le (length_rest_lt _h) (List.dropWhile_sublist isNoMark).length_le

end Quoted

end GemDeps
