import GemDeps.Code.Arguments
import GemDeps.Code.Comment
import GemDeps.Code.Value
import GemDeps.Spelling.Quote
import Mathlib.Data.List.Basic

/-!
# Literals are opaque

A text leaves a zone when it reaches plain code right after its last character and not before. A
quote and a text that leaves the literal it opens are a literal, and every scanner takes a literal
as it stands: it drops nothing, cuts nothing, counts no bracket, and goes on in plain code after it.
A wrapped string is a literal (`isLiteral_wrap`), whatever the string.
-/

namespace GemDeps

namespace Zone

/-- Plain code is reached after the last character, and not before. -/
def Leaves : Zone → Text → Prop
  | z, [] => z = code
  | z, c :: t => z ≠ code ∧ Leaves (z.next c) t

theorem isCode_eq_false {z : Zone} (hz : z ≠ code) : z.isCode = false := by
  cases z with
  | code => exact absurd rfl hz
  | literal q => rfl
  | escape q => rfl

/-- A position inside a literal of style `q`. -/
def IsIn (q : QuoteStyle) (z : Zone) : Prop := z = literal q ∨ z = escape q

theorem IsIn.ne_code {q : QuoteStyle} {z : Zone} (hz : z.IsIn q) : z ≠ code := by
  rcases hz with rfl | rfl <;> simp

/-- A literal is left at its own quote only. -/
theorem IsIn.next {q : QuoteStyle} {z : Zone} (hz : z.IsIn q) (c : Char) :
    (z.next c).IsIn q ∨ (z = literal q ∧ c = q.mark ∧ z.next c = code) := by
  rcases hz with rfl | rfl
  · by_cases hb : c = '\\'
    · exact .inl (.inr (if_pos hb))
    · by_cases hm : c = q.mark
      · exact .inr ⟨rfl, hm, (if_neg hb).trans (if_pos hm)⟩
      · exact .inl (.inl ((if_neg hb).trans (if_neg hm)))
  · exact .inl (.inl rfl)

theorem IsIn.getLast?_of_leaves {q : QuoteStyle} {z : Zone} {u : Text} (hz : z.IsIn q)
    (hu : Leaves z u) : ∃ v, u = v ++ [q.mark] := by
  induction u generalizing z with
  | nil => exact absurd hu hz.ne_code
  | cons c u ih =>
    rcases hz.next c with h | ⟨-, hc, h⟩
    · obtain ⟨v, rfl⟩ := ih h hu.2
      exact ⟨c :: v, rfl⟩
    · rw [Leaves, h] at hu
      cases u with
      | nil => exact ⟨[], by rw [hc]; rfl⟩
      | cons d u => exact absurd rfl hu.2.1

end Zone

/-- A quote and a text that leaves the literal it opens. -/
def IsLiteral (l : Text) : Prop :=
  ∃ (q : QuoteStyle) (u : Text), l = q.mark :: u ∧ Zone.Leaves (.literal q) u

theorem IsLiteral.eq_wrapped {l : Text} (hl : IsLiteral l) :
    ∃ (q : QuoteStyle) (v : Text), l = q.mark :: (v ++ [q.mark]) ∧
      Zone.Leaves (.literal q) (v ++ [q.mark]) := by
  obtain ⟨q, u, rfl, hu⟩ := hl
  obtain ⟨v, rfl⟩ := Zone.IsIn.getLast?_of_leaves (.inl rfl) hu
  exact ⟨q, v, rfl, hu⟩

theorem IsLiteral.ne_nil {l : Text} (hl : IsLiteral l) : l ≠ [] := by
  obtain ⟨q, u, rfl, -⟩ := hl
  simp

theorem next_code_mark (q : QuoteStyle) : Zone.next .code q.mark = .literal q := by
  cases q <;> rfl

/-! ## Wrapped strings -/

theorem leaves_escape (q : QuoteStyle) (s : Text) :
    Zone.Leaves (.literal q) (q.escape s ++ [q.mark]) := by
  have hmark : Zone.next (.literal q) q.mark = .code := by cases q <;> rfl
  induction s with
  | nil => exact ⟨by simp, by rw [hmark]; rfl⟩
  | cons c s ih =>
    rw [QuoteStyle.escape]
    split
    · exact ⟨by simp, by simp [Zone.next], by simpa [Zone.next] using ih⟩
    · rename_i hc
      obtain ⟨hm, hb⟩ : c ≠ q.mark ∧ c ≠ '\\' := by simpa using hc
      refine ⟨by simp, ?_⟩
      rw [show Zone.next (.literal q) c = .literal q from (if_neg hb).trans (if_neg hm)]
      exact ih

theorem isLiteral_wrap (q : QuoteStyle) (s : Text) : IsLiteral (q.wrap s) :=
  ⟨q, _, rfl, leaves_escape q s⟩

/-- A string without quotes and backslashes is written as it is. -/
theorem escape_eq_self {q : QuoteStyle} {s : Text} (h : ∀ c ∈ s, c ≠ q.mark ∧ c ≠ '\\') :
    q.escape s = s := by
  induction s with
  | nil => rfl
  | cons c s ih =>
    rw [List.forall_mem_cons] at h
    rw [QuoteStyle.escape, if_neg (by simpa using h.1), ih h.2]

/-! ## Comments -/

theorem splitComment_of_leaves {z : Zone} {u : Text} (hu : z.Leaves u) (t : Text) :
    splitComment z (u ++ t) = (u ++ (splitComment .code t).1, (splitComment .code t).2) := by
  induction u generalizing z with
  | nil =>
    obtain rfl : z = .code := hu
    rfl
  | cons c u ih =>
    rw [List.cons_append, splitComment, Zone.isCode_eq_false hu.1, Bool.false_and,
      if_neg Bool.false_ne_true, ih hu.2]
    rfl

theorem splitComment_literal {l : Text} (hl : IsLiteral l) (t : Text) :
    splitComment .code (l ++ t) = (l ++ (splitComment .code t).1, (splitComment .code t).2) := by
  obtain ⟨q, u, rfl, hu⟩ := hl
  rw [List.cons_append, splitComment, if_neg (by cases q <;> decide), next_code_mark,
    splitComment_of_leaves hu]
  rfl

/-- Characters that are no quote and no `#` stand in front of a comment as they are. -/
theorem splitComment_of_quiet {u : Text}
    (hu : ∀ c ∈ u, c ≠ '#' ∧ QuoteStyle.ofMark? c = none) (t : Text) :
    splitComment .code (u ++ t) = (u ++ (splitComment .code t).1, (splitComment .code t).2) := by
  induction u with
  | nil => rfl
  | cons c u ih =>
    rw [List.forall_mem_cons] at hu
    have hnext : Zone.next .code c = .code := by rw [Zone.next, hu.1.2]
    rw [List.cons_append, splitComment, if_neg (by simp [hu.1.1]), hnext, ih hu.2]
    rfl

/-- No comment starts in the text, and plain code is reached after it. -/
def IsUncommented (t : Text) : Prop := ∀ u, stripComment (t ++ u) = t ++ stripComment u

theorem IsUncommented.append {s t : Text} (hs : IsUncommented s) (ht : IsUncommented t) :
    IsUncommented (s ++ t) := by
  intro u
  rw [List.append_assoc, hs, ht, List.append_assoc]

theorem IsLiteral.isUncommented {l : Text} (hl : IsLiteral l) : IsUncommented l := by
  intro u
  rw [stripComment, splitComment_literal hl]
  rfl

/-- Behind an uncommented text a comment starts where it does without it. -/
theorem IsUncommented.commentStart?_append {s : Text} (hs : IsUncommented s) (t : Text) :
    commentStart? (s ++ t) = (commentStart? t).map (s.size + ·) := by
  have hcomment : (splitComment .code (s ++ t)).2 = (splitComment .code t).2 := by
    have h := splitComment_append .code (s ++ t)
    rw [show (splitComment .code (s ++ t)).1 = s ++ stripComment t from hs t, List.append_assoc,
      List.append_cancel_left_eq] at h
    exact List.append_cancel_left (h.trans (splitComment_append .code t).symm)
  rw [commentStart?, commentStart?, hcomment, hs, Text.size_append]
  split <;> rfl

/-! ## Brackets, commas and arrows -/

theorem splitCommas_of_leaves {z : Zone} {u : Text} (hu : z.Leaves u) (d : Nat) (t : Text) :
    splitCommas z d (u ++ t) = u.foldr consFirst (splitCommas .code d t) := by
  induction u generalizing z with
  | nil =>
    obtain rfl : z = .code := hu
    rfl
  | cons c u ih =>
    have hz := Zone.isCode_eq_false hu.1
    have hd : bracketDepth z d c = d := by rw [bracketDepth, hz, if_neg Bool.false_ne_true]
    rw [List.cons_append, splitCommas, hz, Bool.false_and, Bool.false_and,
      if_neg Bool.false_ne_true, hd, ih hu.2]
    rfl

theorem splitCommas_literal {l : Text} (hl : IsLiteral l) (d : Nat) (t : Text) :
    splitCommas .code d (l ++ t) = l.foldr consFirst (splitCommas .code d t) := by
  obtain ⟨q, u, rfl, hu⟩ := hl
  have hd : bracketDepth .code d q.mark = d := by cases q <;> rfl
  have hcomma : ¬ (Zone.isCode .code && q.mark == ',' && d == 0) = true := by
    cases q <;> simp [QuoteStyle.mark]
  rw [List.cons_append, splitCommas, if_neg hcomma, hd, next_code_mark, splitCommas_of_leaves hu]
  rfl

theorem beforeClosingParen?_of_leaves {z : Zone} {u : Text} (hu : z.Leaves u) (d : Nat)
    (t : Text) :
    beforeClosingParen? z d (u ++ t) = (beforeClosingParen? .code d t).map (u ++ ·) := by
  induction u generalizing z with
  | nil =>
    obtain rfl : z = .code := hu
    simp
  | cons c u ih =>
    have hz := Zone.isCode_eq_false hu.1
    have hd : bracketDepth z d c = d := by rw [bracketDepth, hz, if_neg Bool.false_ne_true]
    rw [List.cons_append, beforeClosingParen?, hz, Bool.false_and, Bool.false_and,
      if_neg Bool.false_ne_true, Bool.false_and, if_neg Bool.false_ne_true, hd, ih hu.2,
      Option.map_map]
    rfl

theorem beforeClosingParen?_literal {l : Text} (hl : IsLiteral l) (d : Nat) (t : Text) :
    beforeClosingParen? .code d (l ++ t) = (beforeClosingParen? .code d t).map (l ++ ·) := by
  obtain ⟨q, u, rfl, hu⟩ := hl
  have hd : bracketDepth .code d q.mark = d := by cases q <;> rfl
  have hparen : ¬ (Zone.isCode .code && q.mark == ')' && d == 0) = true := by
    cases q <;> simp [QuoteStyle.mark]
  have hhash : ¬ (Zone.isCode .code && q.mark == '#') = true := by cases q <;> decide
  rw [List.cons_append, beforeClosingParen?, if_neg hparen, if_neg hhash, hd, next_code_mark,
    beforeClosingParen?_of_leaves hu, Option.map_map]
  rfl

theorem splitList?_of_leaves {z : Zone} {u : Text} (hu : z.Leaves u) (d : Nat) (t : Text) :
    splitList? z d (u ++ t) = (splitList? .code d t).map fun p => (u ++ p.1, p.2) := by
  induction u generalizing z with
  | nil =>
    obtain rfl : z = .code := hu
    simp
  | cons c u ih =>
    have hz := Zone.isCode_eq_false hu.1
    have hd : squareDepth z d c = d := by rw [squareDepth, hz, if_neg Bool.false_ne_true]
    rw [List.cons_append, splitList?, hz, Bool.false_and, Bool.false_and,
      if_neg Bool.false_ne_true, hd, ih hu.2, Option.map_map]
    rfl

theorem splitList?_literal {l : Text} (hl : IsLiteral l) (d : Nat) (t : Text) :
    splitList? .code d (l ++ t) = (splitList? .code d t).map fun p => (l ++ p.1, p.2) := by
  obtain ⟨q, u, rfl, hu⟩ := hl
  have hd : squareDepth .code d q.mark = d := by cases q <;> rfl
  have hbracket : ¬ (Zone.isCode .code && q.mark == ']' && d ≤ 1) = true := by
    cases q <;> simp [QuoteStyle.mark]
  rw [List.cons_append, splitList?, if_neg hbracket, hd, next_code_mark,
    splitList?_of_leaves hu, Option.map_map]
  rfl

/-! ## Reading a literal -/

namespace Quoted

/-- A gap consists of blanks. -/
theorem dropWhile_isGap {t : Text} (ht : ∀ c ∈ t.head?, Text.isBlank c = false) :
    t.dropWhile isGap = t := by
  cases t with
  | nil => rfl
  | cons c t =>
    have hc : Text.isBlank c = false := ht c rfl
    refine List.dropWhile_cons_of_neg fun hgap => ?_
    rw [isGap, Bool.or_eq_true, beq_iff_eq, beq_iff_eq] at hgap
    rcases hgap with rfl | rfl
    · exact absurd hc (by decide)
    · exact absurd hc (by decide)

theorem close?_of_leaves {z : Zone} {a : Text} {c : Char} (hu : z.Leaves (a ++ [c])) (b : Text) :
    close? z (a ++ c :: b) = some (a, b) := by
  induction a generalizing z with
  | nil =>
    have hnext : z.next c = .code := hu.2
    rw [List.nil_append, close?, hnext]
    rfl
  | cons d a ih =>
    have hnext : z.next d ≠ .code := by
      cases a with
      | nil => exact hu.2.1
      | cons e a => exact hu.2.1
    rw [List.cons_append, close?, Zone.isCode_eq_false hnext, if_neg Bool.false_ne_true, ih hu.2]
    rfl

theorem leaves_of_close? {q : QuoteStyle} {z : Zone} {t a b : Text} (hz : z.IsIn q)
    (h : close? z t = some (a, b)) :
    t = a ++ q.mark :: b ∧ z.Leaves (a ++ [q.mark]) := by
  fun_induction close? z t generalizing a b with
  | case1 => simp at h
  | case2 z c t hcode =>
    obtain ⟨rfl, rfl⟩ : a = [] ∧ t = b := by simpa [eq_comm] using h
    rcases hz.next c with h | ⟨-, rfl, hnext⟩
    · rw [Zone.isCode_eq_false h.ne_code] at hcode
      exact absurd hcode Bool.false_ne_true
    · exact ⟨rfl, hz.ne_code, hnext⟩
  | case3 z c t hcode ih =>
    obtain ⟨⟨u, v⟩, hv, he⟩ := Option.map_eq_some_iff.1 h
    obtain ⟨rfl, rfl⟩ : c :: u = a ∧ v = b := by simpa using he
    rcases hz.next c with hnext | ⟨-, -, hnext⟩
    · obtain ⟨rfl, hu⟩ := ih hnext hv
      exact ⟨rfl, hz.ne_code, hu⟩
    · rw [hnext] at hcode
      exact absurd rfl hcode

/-- A literal is read as it stands, whatever follows. -/
theorem read?_literal {q : QuoteStyle} {a : Text} (ha : Zone.Leaves (.literal q) (a ++ [q.mark]))
    (b : Text) : read? (q.mark :: (a ++ q.mark :: b)) = some ⟨q, a, b⟩ := by
  have hgap : isGap q.mark = false := by cases q <;> rfl
  rw [read?, List.dropWhile_cons_of_neg (by simp [hgap])]
  simp only [QuoteStyle.ofMark?_mark, close?_of_leaves ha]
  rfl

/-- What is read is a literal after a gap. -/
theorem eq_of_read? {t : Text} {l : Quoted} (h : read? t = some l) :
    t.dropWhile isGap = l.style.mark :: (l.value ++ l.style.mark :: l.rest) ∧
      Zone.Leaves (.literal l.style) (l.value ++ [l.style.mark]) := by
  unfold read? at h
  split at h
  · simp at h
  · rename_i c r hr
    split at h
    · simp at h
    · rename_i q hq
      obtain ⟨⟨u, v⟩, hv, rfl⟩ := Option.map_eq_some_iff.1 h
      obtain ⟨rfl, hu⟩ := leaves_of_close? (.inl rfl) hv
      obtain rfl := QuoteStyle.ofMark?_eq_some_iff.1 hq
      exact ⟨hr, hu⟩

end Quoted

end GemDeps
