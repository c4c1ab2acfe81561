import GemDeps.Proofs.Arguments
import GemDeps.Proofs.Statements
import GemDeps.Revision.Pin

/-!
# Dropping version arguments

The rest of a line is its version arguments and what is left of it without them
(`exists_dropped`), and what is left starts with no version argument, so dropping twice is dropping
once (`dropVersionArguments_dropVersionArguments`). What is dropped is code that ends in a quote or
a bracket: whether a line goes on on the next one is decided by what is left
(`continues_append`).
-/

namespace GemDeps

/-! ## Finished texts -/

/-- Uncommented, and ending in a character that ends a line of its own. -/
structure IsFinished (t : Text) : Prop where
  uncommented : IsUncommented t
  last : ∃ s c, t = s ++ [c] ∧ Text.isBlank c = false ∧ c ≠ ',' ∧ c ≠ '\\'

theorem IsFlat.isUncommented {t : Text} (ht : IsFlat t) : IsUncommented t := by
  intro u
  rw [stripComment, splitComment_flat ht]
  rfl

theorem IsFinished.append_left {s t : Text} (hs : IsUncommented s) (ht : IsFinished t) :
    IsFinished (s ++ t) := by
  obtain ⟨u, c, rfl, hc⟩ := ht.last
  exact ⟨hs.append ht.uncommented, s ++ u, c, (List.append_assoc _ _ _).symm, hc⟩

theorem isBlank_mark_and_ne (q : QuoteStyle) :
    Text.isBlank q.mark = false ∧ q.mark ≠ ',' ∧ q.mark ≠ '\\' := by
  cases q <;> decide

theorem IsLiteral.isFinished {l : Text} (hl : IsLiteral l) : IsFinished l := by
  obtain ⟨q, v, rfl, -⟩ := hl.eq_wrapped
  exact ⟨hl.isUncommented, q.mark :: v, q.mark, rfl, isBlank_mark_and_ne q⟩

theorem Statement.IsOn.isFinished_head {s : Statement} {kind : Kind} {line : Text}
    (h : s.IsOn kind line) : IsFinished s.head := by
  refine ⟨h.isUncommented_head, s.indent ++ s.keyword ++ s.quote.mark :: s.name, s.quote.mark, ?_,
    isBlank_mark_and_ne s.quote⟩
  simp [Statement.head]

/-- Whether a line goes on is decided by what stands behind a finished text. -/
theorem continues_append {s : Text} (hs : IsFinished s) (t : Text) :
    continues (s ++ t) = continues t := by
  obtain ⟨u, c, rfl, hc, hcomma, hslash⟩ := hs.last
  unfold continues
  rw [hs.uncommented]
  rw [Text.trimEnd_concat_append hc]
  by_cases ht : Text.trimEnd (stripComment t) = []
  · rw [ht, List.append_nil, List.getLast?_concat]
    simp [hcomma, hslash]
  · rw [List.getLast?_append_of_ne_nil _ ht]

/-! ## Version tokens -/

/-- A literal, or a list of strings in square brackets. -/
def IsVersionToken (k : Text) : Prop :=
  IsLiteral k ∨ ∃ inner, k = '[' :: (inner ++ [']']) ∧ (Value.read k).versions?.isSome = true

theorem take_length_sub (k r : Text) : (k ++ r).take ((k ++ r).length - r.length) = k := by
  rw [List.length_append, Nat.add_sub_cancel, List.take_left]

namespace IsVersionToken

variable {k : Text} (hk : IsVersionToken k)

include hk

theorem exists_cons : ∃ c t, k = c :: t ∧ Text.isBlank c = false := by
  rcases hk with hk | ⟨inner, rfl, -⟩
  · obtain ⟨q, u, rfl, -⟩ := hk
    exact ⟨_, _, rfl, Text.isBlank_mark q⟩
  · exact ⟨_, _, rfl, by decide⟩

theorem isFinished : IsFinished k := by
  rcases hk with hk | ⟨inner, rfl, hread⟩
  · exact hk.isFinished
  · have hflat := Value.isFlat_of_versions? hread
    refine ⟨fun u => ?_, '[' :: inner, ']', rfl, by decide, by decide, by decide⟩
    rw [stripComment, List.cons_append, splitComment, if_neg (by decide),
      show Zone.next .code '[' = .code from rfl, List.append_assoc, splitComment_flat hflat,
      List.singleton_append, splitComment, if_neg (by decide),
      show Zone.next .code ']' = .code from rfl]
    simp [stripComment]

/-- The parenthesis that closes nothing is looked for behind the token. -/
theorem beforeClosingParen?_append (d : Nat) (t : Text) :
    beforeClosingParen? .code d (k ++ t) = (beforeClosingParen? .code d t).map (k ++ ·) := by
  rcases hk with hk | ⟨inner, rfl, hread⟩
  · exact beforeClosingParen?_literal hk d t
  · have hflat := Value.isFlat_of_versions? hread
    -- The list is one bracket deeper, and as deep as before behind it.
    have hopening : ∀ u, beforeClosingParen? .code d ('[' :: u) =
        (beforeClosingParen? .code (d + 1) u).map ('[' :: ·) := fun _ => rfl
    have hclosing : ∀ u, beforeClosingParen? .code (d + 1) (']' :: u) =
        (beforeClosingParen? .code d u).map (']' :: ·) := fun _ => rfl
    rw [List.cons_append, List.append_assoc, hopening, beforeClosingParen?_flat hflat,
      List.singleton_append, hclosing, Option.map_map, Option.map_map]
    simp [Function.comp_def]

/-- A token is part of one argument. -/
theorem splitCommas_append (d : Nat) (t : Text) :
    splitCommas .code d (k ++ t) = k.foldr consFirst (splitCommas .code d t) := by
  rcases hk with hk | ⟨inner, rfl, hread⟩
  · exact splitCommas_literal hk d t
  · have hflat := Value.isFlat_of_versions? hread
    have hopening : ∀ u, splitCommas .code d ('[' :: u) =
        consFirst '[' (splitCommas .code (d + 1) u) := fun _ => rfl
    have hclosing : ∀ u, splitCommas .code (d + 1) (']' :: u) =
        consFirst ']' (splitCommas .code d u) := fun _ => rfl
    rw [List.cons_append, List.append_assoc, hopening, splitCommas_flat hflat,
      List.singleton_append, hclosing, List.foldr_cons, List.foldr_append]
    rfl

theorem isSome_versions? : (Value.read k).versions?.isSome = true := by
  rcases hk with hk | ⟨inner, rfl, hread⟩
  · obtain ⟨q, v, rfl, hv⟩ := hk.eq_wrapped
    rw [Value.read_literal hv]
    rfl
  · exact hread

/-- A token is cut off as it stands. -/
theorem argumentToken?_append (r : Text) : argumentToken? (k ++ r) = some (k, r) := by
  rcases hk with hk | ⟨inner, rfl, hread⟩
  · obtain ⟨q, v, rfl, hv⟩ := hk.eq_wrapped
    have hread : Quoted.read? (q.mark :: (v ++ [q.mark]) ++ r) = some ⟨q, v, r⟩ := by
      rw [List.cons_append, List.append_assoc]
      exact Quoted.read?_literal hv r
    rw [argumentToken?, hread]
    exact congrArg (fun w => some (w, r)) (take_length_sub _ r)
  · have hflat := Value.isFlat_of_versions? hread
    have hquoted : Quoted.read? ('[' :: (inner ++ [']']) ++ r) = none := rfl
    have hlist : splitList? .code 0 ('[' :: (inner ++ [']']) ++ r) =
        some ('[' :: (inner ++ [']']), r) := by
      rw [List.cons_append, splitList?, if_neg (by decide),
        show Zone.next .code '[' = .code from rfl, List.append_assoc, splitList?_flat hflat,
        List.singleton_append, splitList?, if_pos (by decide)]
      rfl
    rw [argumentToken?, hquoted]
    exact (if_pos rfl).trans hlist

end IsVersionToken

theorem eq_of_splitList? {z : Zone} {d : Nat} {t a b : Text}
    (h : splitList? z d t = some (a, b)) : t = a ++ b ∧ ∃ u, a = u ++ [']'] := by
  fun_induction splitList? z d t generalizing a b with
  | case1 => simp at h
  | case2 z d c t hc =>
    obtain ⟨⟨-, rfl⟩, -⟩ : (z.isCode = true ∧ c = ']') ∧ d ≤ 1 := by simpa using hc
    obtain ⟨rfl, rfl⟩ : [']'] = a ∧ t = b := by simpa using h
    exact ⟨rfl, [], rfl⟩
  | case3 z d c t hc ih =>
    obtain ⟨⟨u, v⟩, hv, he⟩ := Option.map_eq_some_iff.1 h
    obtain ⟨rfl, rfl⟩ : c :: u = a ∧ v = b := by simpa using he
    obtain ⟨rfl, w, rfl⟩ := ih hv
    exact ⟨rfl, c :: w, rfl⟩

/-- A token that gives versions is cut off the text it starts. -/
theorem isVersionToken_of_argumentToken? {t k r : Text}
    (ht : ∀ c ∈ t.head?, Text.isBlank c = false) (h : argumentToken? t = some (k, r))
    (hk : (Value.read k).versions?.isSome = true) : t = k ++ r ∧ IsVersionToken k := by
  unfold argumentToken? at h
  split at h
  · rename_i l hl
    obtain ⟨hdrop, hleaves⟩ := Quoted.eq_of_read? hl
    have hsplit : t = l.style.mark :: (l.value ++ [l.style.mark]) ++ l.rest := by
      rw [Quoted.dropWhile_isGap ht] at hdrop
      rw [hdrop]
      simp
    have htake := take_length_sub (l.style.mark :: (l.value ++ [l.style.mark])) l.rest
    rw [← hsplit] at htake
    rw [htake] at h
    obtain ⟨rfl, rfl⟩ : l.style.mark :: (l.value ++ [l.style.mark]) = k ∧ l.rest = r := by
      simpa using h
    exact ⟨hsplit, .inl ⟨l.style, _, rfl, hleaves⟩⟩
  · obtain ⟨hhead, h⟩ := Option.ite_none_right_eq_some.1 h
    obtain ⟨rfl, u, rfl⟩ := eq_of_splitList? h
    refine ⟨rfl, ?_⟩
    cases u with
    | nil => simp at hhead
    | cons c u =>
      obtain rfl : c = '[' := by simpa using hhead
      exact .inr ⟨u, rfl, hk⟩

/-! ## Version arguments -/

theorem IsVersionToken.trimStart_append {k : Text} (hk : IsVersionToken k) (r : Text) :
    Text.trimStart (k ++ r) = k ++ r := by
  obtain ⟨c, t, rfl, hc⟩ := hk.exists_cons
  exact Text.trimStart_cons hc _

/-- A comma and a token are dropped unless an option's mark follows. -/
theorem dropVersionArgument?_token {b b' k : Text} (hb : Text.IsBlanks b) (hb' : Text.IsBlanks b')
    (hk : IsVersionToken k) (r : Text) :
    dropVersionArgument? (b ++ ',' :: (b' ++ (k ++ r))) =
      if continuesKey r then none else some r := by
  rw [dropVersionArgument?, Text.trimStart_append hb, Text.trimStart_cons (by decide)]
  simp only [Text.trimStart_append hb', hk.trimStart_append, hk.argumentToken?_append,
    hk.isSome_versions?]
  cases continuesKey r <;> rfl

/-- A version argument is a comma and a token, with blanks around the comma, that no option's mark
follows. -/
theorem dropVersionArgument?_eq_some_iff {t r : Text} :
    dropVersionArgument? t = some r ↔ ∃ b b' k, Text.IsBlanks b ∧ Text.IsBlanks b' ∧
      t = b ++ ',' :: (b' ++ (k ++ r)) ∧ IsVersionToken k ∧ continuesKey r = false := by
  constructor
  · intro h
    unfold dropVersionArgument? at h
    split at h
    · rename_i s hs
      split at h
      · rename_i k w hw
        obtain ⟨hcond, h⟩ := Option.ite_none_right_eq_some.1 h
        obtain ⟨hversions, hkey⟩ : (Value.read k).versions?.isSome = true ∧
            continuesKey w = false := by simpa using hcond
        obtain rfl : w = r := by simpa using h
        obtain ⟨hk, htoken⟩ :=
          isVersionToken_of_argumentToken? (Text.isBlank_of_head?_trimStart s) hw hversions
        refine ⟨_, _, k, Text.isBlanks_indentation t, Text.isBlanks_indentation s, ?_, htoken,
          hkey⟩
        rw [← hk, Text.indentation_append_trimStart, ← hs, Text.indentation_append_trimStart]
      · simp at h
    · simp at h
  · rintro ⟨b, b', k, hb, hb', rfl, hk, hkey⟩
    rw [dropVersionArgument?_token hb hb' hk, hkey]
    rfl

theorem dropVersionArguments_of_some {t r : Text} (h : dropVersionArgument? t = some r) :
    dropVersionArguments t = dropVersionArguments r := by
  rw [dropVersionArguments.eq_def]
  split
  · rename_i s hs
    obtain rfl : s = r := by simpa [h] using hs.symm
    rfl
  · rename_i hs
    simp [h] at hs

theorem dropVersionArguments_of_none {t : Text} (h : dropVersionArgument? t = none) :
    dropVersionArguments t = t := by
  rw [dropVersionArguments.eq_def]
  split
  · rename_i s hs
    simp [h] at hs
  · rfl

/-- A text is the version arguments it starts with and what is left without them. -/
theorem exists_dropped (t : Text) : ∃ dropped, t = dropped ++ dropVersionArguments t ∧
    (dropped = [] ∨ (IsFinished dropped ∧ continuesKey (dropVersionArguments t) = false)) := by
  fun_induction dropVersionArguments t with
  | case1 t r h ih =>
    obtain ⟨b, b', k, hb, hb', ht, hk, hkey⟩ := dropVersionArgument?_eq_some_iff.1 h
    have hopening : IsUncommented (b ++ ',' :: b') :=
      ((isFlat_of_isBlanks hb).append (.cons (by decide) (isFlat_of_isBlanks hb'))).isUncommented
    have hfinished : IsFinished (b ++ ',' :: b' ++ k) := hk.isFinished.append_left hopening
    have ht' : t = b ++ ',' :: b' ++ k ++ r := by
      rw [ht]
      simp
    obtain ⟨dropped, hr, hdropped⟩ := ih
    refine ⟨b ++ ',' :: b' ++ k ++ dropped, ?_, .inr ?_⟩
    · rw [List.append_assoc, ← hr, ← ht']
    · rcases hdropped with rfl | ⟨hd, hd'⟩
      · rw [List.append_nil, ← hr.trans (List.nil_append _)]
        exact ⟨hfinished, hkey⟩
      · exact ⟨hd.append_left hfinished.uncommented, hd'⟩
  | case2 t h => exact ⟨[], rfl, .inl rfl⟩

theorem dropVersionArgument?_dropVersionArguments (t : Text) :
    dropVersionArgument? (dropVersionArguments t) = none := by
  fun_induction dropVersionArguments t with
  | case1 t r h ih => exact ih
  | case2 t h => exact h

theorem dropVersionArguments_dropVersionArguments (t : Text) :
    dropVersionArguments (dropVersionArguments t) = dropVersionArguments t :=
  dropVersionArguments_of_none (dropVersionArgument?_dropVersionArguments t)

/-- An option's mark stands behind the version arguments if one stands in front of them. -/
theorem continuesKey_dropVersionArguments_eq (t : Text) :
    continuesKey (dropVersionArguments t) = continuesKey t := by
  fun_induction dropVersionArguments t with
  | case1 t r h ih =>
    -- In front of an argument stands its comma.
    obtain ⟨b, b', k, hb, -, rfl, -, hkey⟩ := dropVersionArgument?_eq_some_iff.1 h
    rw [ih, hkey, continuesKey, Text.trimStart_append hb, Text.trimStart_cons (by decide)]
    rfl
  | case2 t h => rfl

/-- No option's mark stands behind the version arguments if none stands in front of them. -/
theorem continuesKey_dropVersionArguments {t : Text} (h : continuesKey t = false) :
    continuesKey (dropVersionArguments t) = false := by
  rw [continuesKey_dropVersionArguments_eq, h]

/-- A written constraint is one version argument, unless an option's mark follows. -/
theorem dropVersionArgument?_wrap (q : QuoteStyle) (constraint r : Text) :
    dropVersionArgument? (", ".toList ++ q.wrap constraint ++ r) =
      if continuesKey r then none else some r := by
  have hsplit : ", ".toList ++ q.wrap constraint ++ r =
      [] ++ ',' :: ([' '] ++ (q.wrap constraint ++ r)) := by simp
  have hblanks : Text.IsBlanks [' '] := List.all_eq_true.1 (by decide)
  rw [hsplit]
  exact dropVersionArgument?_token (List.forall_mem_nil _) hblanks
    (.inl (isLiteral_wrap q constraint)) r

theorem dropVersionArgument?_constraint (q : QuoteStyle) (constraint : Text) {r : Text}
    (hr : continuesKey r = false) :
    dropVersionArgument? (", ".toList ++ q.wrap constraint ++ r) = some r := by
  rw [dropVersionArgument?_wrap, hr]
  rfl

theorem dropVersionArguments_wrap (q : QuoteStyle) (constraint r : Text) :
    dropVersionArguments (", ".toList ++ q.wrap constraint ++ r) =
      if continuesKey r then ", ".toList ++ q.wrap constraint ++ r else dropVersionArguments r := by
  cases hr : continuesKey r with
  | false => exact dropVersionArguments_of_some (dropVersionArgument?_constraint q constraint hr)
  | true =>
    refine dropVersionArguments_of_none ?_
    rw [dropVersionArgument?_wrap, hr]
    rfl

end GemDeps
