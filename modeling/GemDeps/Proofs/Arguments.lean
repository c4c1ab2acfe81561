import GemDeps.Proofs.Blanks
import GemDeps.Proofs.Literals

/-!
# Arguments and their values

The arguments of a call are cut at commas and nothing is lost (`join_splitCommas`). A flat text
consists of literals and of characters that are no quotes, no brackets and no `#`; scanners pass
over it, and over a flat text between square brackets. An argument that is read as a string is a
literal between blanks, so a list of such arguments is flat inside (`Value.isFlat_of_versions?`).
-/

namespace GemDeps

/-! ## Commas -/

theorem consFirst_ne_nil (c : Char) (ps : List Text) : consFirst c ps ≠ [] := by
  cases ps <;> simp [consFirst]

theorem splitCommas_ne_nil (z : Zone) (d : Nat) (t : Text) : splitCommas z d t ≠ [] := by
  unfold splitCommas
  split
  · simp
  · split
    · simp
    · exact consFirst_ne_nil _ _

theorem join_consFirst (c : Char) (ps : List Text) :
    Text.join [','] (consFirst c ps) = c :: Text.join [','] ps := by
  cases ps with
  | nil => rfl
  | cons p ps =>
    cases ps with
    | nil => simp [consFirst, Text.join_singleton]
    | cons q ps => simp [consFirst, Text.join_cons_cons]

/-- Cutting at the commas loses nothing. -/
theorem join_splitCommas (z : Zone) (d : Nat) (t : Text) :
    Text.join [','] (splitCommas z d t) = t := by
  fun_induction splitCommas z d t with
  | case1 => rfl
  | case2 z d c t hc ih =>
    obtain ⟨⟨-, rfl⟩, -⟩ : (z.isCode = true ∧ c = ',') ∧ d = 0 := by simpa using hc
    obtain ⟨p, ps, hps⟩ := List.exists_cons_of_ne_nil (splitCommas_ne_nil z d t)
    rw [hps] at ih ⊢
    rw [Text.join_cons_cons, ih]
    rfl
  | case3 z d c t hc ih => rw [join_consFirst, ih]

theorem foldr_consFirst (u p : Text) (ps : List Text) :
    u.foldr consFirst (p :: ps) = (u ++ p) :: ps := by
  induction u with
  | nil => rfl
  | cons c u ih =>
    rw [List.foldr_cons, ih]
    rfl

/-- What stands on both sides of an arrow. -/
theorem eq_of_splitArrow? {z : Zone} {t : Text} {p : Text × Text} (h : splitArrow? z t = some p) :
    t = p.1 ++ '=' :: '>' :: p.2 := by
  fun_induction splitArrow? z t generalizing p with
  | case1 => cases h
  | case2 z c t hc =>
    obtain ⟨⟨-, rfl⟩, hnext⟩ : (z.isCode = true ∧ c = '=') ∧ t.head? = some '>' := by
      simpa using hc
    cases h
    cases t with
    | nil => cases hnext
    | cons d t =>
      cases hnext
      rfl
  | case3 z c t hc ih =>
    obtain ⟨q, hq, rfl⟩ := Option.map_eq_some_iff.1 h
    rw [ih hq]
    rfl

/-! ## Flat texts -/

/-- No quote, no bracket and no `#`. -/
def isFlatChar (c : Char) : Bool :=
  c != '#' && !opensBracket c && !closesBracket c && (QuoteStyle.ofMark? c).isNone

/-- Literals, and characters that are no quotes, no brackets and no `#`. -/
inductive IsFlat : Text → Prop
  | nil : IsFlat []
  | cons {c : Char} {t : Text} (hc : isFlatChar c = true) (ht : IsFlat t) : IsFlat (c :: t)
  | literal {l t : Text} (hl : IsLiteral l) (ht : IsFlat t) : IsFlat (l ++ t)

/-- What a flat character does in plain code: nothing. -/
structure IsFlatChar (c : Char) : Prop where
  ne_hash : c ≠ '#'
  ne_paren : c ≠ ')'
  ne_square : c ≠ ']'
  next : Zone.next .code c = .code
  depth : ∀ d, bracketDepth .code d c = d
  square : ∀ d, squareDepth .code d c = d

theorem IsFlatChar.of_eq_true {c : Char} (h : isFlatChar c = true) : IsFlatChar c := by
  obtain ⟨⟨⟨hhash, hopen⟩, hclose⟩, hmark⟩ : ((c ≠ '#' ∧ opensBracket c = false) ∧
      closesBracket c = false) ∧ QuoteStyle.ofMark? c = none := by simpa [isFlatChar] using h
  have hsquare : c ≠ '[' := by
    rintro rfl
    simp [opensBracket] at hopen
  refine ⟨hhash, ?_, ?_, ?_, ?_, ?_⟩
  · rintro rfl
    simp [closesBracket] at hclose
  · rintro rfl
    simp [closesBracket] at hclose
  · rw [Zone.next, hmark]
  · intro d
    simp [bracketDepth, Zone.isCode, hopen, hclose]
  · intro d
    have hclosing : c ≠ ']' := by
      rintro rfl
      simp [closesBracket] at hclose
    simp [squareDepth, Zone.isCode, hsquare, hclosing]

theorem IsFlat.append {s t : Text} (hs : IsFlat s) (ht : IsFlat t) : IsFlat (s ++ t) := by
  induction hs with
  | nil => exact ht
  | cons hc _ ih => exact .cons hc ih
  | literal hl _ ih =>
    rw [List.append_assoc]
    exact .literal hl ih

theorem isFlat_of_forall {t : Text} (ht : ∀ c ∈ t, isFlatChar c = true) : IsFlat t := by
  induction t with
  | nil => exact .nil
  | cons c t ih =>
    rw [List.forall_mem_cons] at ht
    exact .cons ht.1 (ih ht.2)

theorem IsLiteral.isFlat {l : Text} (hl : IsLiteral l) : IsFlat l := by
  simpa using IsFlat.literal hl .nil

theorem isFlat_separator : IsFlat ", ".toList :=
  isFlat_of_forall (List.all_eq_true.1 (by decide))

/-- A written constraint and the comma in front of it. -/
theorem isFlat_constraint (q : QuoteStyle) (constraint : Text) :
    IsFlat (", ".toList ++ q.wrap constraint) :=
  isFlat_separator.append (isLiteral_wrap q constraint).isFlat

theorem isFlatChar_of_isBlank {c : Char} (hc : Text.isBlank c = true) : isFlatChar c = true := by
  have hne : ∀ d : Char, Text.isBlank d = false → c ≠ d := by
    rintro d hd rfl
    simp [hc] at hd
  have hhash := hne '#' (by decide)
  have hmarks : QuoteStyle.ofMark? c = none := by
    rw [QuoteStyle.ofMark?, if_neg (hne _ (by decide)), if_neg (hne _ (by decide))]
  simp only [isFlatChar, opensBracket, closesBracket, hmarks, bne_iff_ne, ne_eq, Bool.and_eq_true,
    Bool.not_eq_true', Bool.or_eq_false_iff, beq_eq_false_iff_ne, Option.isNone_none, and_true]
  exact ⟨⟨hhash, ⟨hne _ (by decide), hne _ (by decide)⟩, hne _ (by decide)⟩,
    ⟨hne _ (by decide), hne _ (by decide)⟩, hne _ (by decide)⟩

theorem isFlat_of_isBlanks {b : Text} (hb : Text.IsBlanks b) : IsFlat b :=
  isFlat_of_forall fun c hc => isFlatChar_of_isBlank (hb c hc)

theorem isFlat_join {ps : List Text} (h : ∀ p ∈ ps, IsFlat p) : IsFlat (Text.join [','] ps) := by
  induction ps with
  | nil => exact .nil
  | cons p ps ih =>
    cases ps with
    | nil => simpa [Text.join_singleton] using h p (by simp)
    | cons q ps =>
      rw [Text.join_cons_cons]
      exact (h p (by simp)).append
        (.cons (by decide) (ih fun r hr => h r (List.mem_cons_of_mem _ hr)))

/-! ## Scanners pass over flat texts -/

theorem splitComment_flat {s : Text} (hs : IsFlat s) (t : Text) :
    splitComment .code (s ++ t) = (s ++ (splitComment .code t).1, (splitComment .code t).2) := by
  induction hs with
  | nil => rfl
  | cons hc _ ih =>
    have hflat := IsFlatChar.of_eq_true hc
    rw [List.cons_append, splitComment, if_neg (by simp [hflat.ne_hash]), hflat.next, ih]
    rfl
  | literal hl _ ih => rw [List.append_assoc, splitComment_literal hl, ih, List.append_assoc]

theorem beforeClosingParen?_flat {s : Text} (hs : IsFlat s) (d : Nat) (t : Text) :
    beforeClosingParen? .code d (s ++ t) = (beforeClosingParen? .code d t).map (s ++ ·) := by
  induction hs with
  | nil => simp
  | cons hc _ ih =>
    have hflat := IsFlatChar.of_eq_true hc
    rw [List.cons_append, beforeClosingParen?, if_neg (by simp [hflat.ne_paren]),
      if_neg (by simp [hflat.ne_hash]), hflat.next, hflat.depth, ih, Option.map_map]
    rfl
  | literal hl _ ih =>
    rw [List.append_assoc, beforeClosingParen?_literal hl, ih, Option.map_map]
    simp [Function.comp_def]

/-- Inside a bracket no comma separates arguments. -/
theorem splitCommas_flat {s : Text} (hs : IsFlat s) (d : Nat) (t : Text) :
    splitCommas .code (d + 1) (s ++ t) = s.foldr consFirst (splitCommas .code (d + 1) t) := by
  induction hs with
  | nil => rfl
  | cons hc _ ih =>
    have hflat := IsFlatChar.of_eq_true hc
    rw [List.cons_append, splitCommas, if_neg (by simp), hflat.next, hflat.depth, ih]
    rfl
  | literal hl _ ih => rw [List.append_assoc, splitCommas_literal hl, ih, List.foldr_append]

theorem splitList?_flat {s : Text} (hs : IsFlat s) (d : Nat) (t : Text) :
    splitList? .code d (s ++ t) = (splitList? .code d t).map fun p => (s ++ p.1, p.2) := by
  induction hs with
  | nil => simp
  | cons hc _ ih =>
    have hflat := IsFlatChar.of_eq_true hc
    rw [List.cons_append, splitList?, if_neg (by simp [hflat.ne_square]), hflat.next,
      hflat.square, ih, Option.map_map]
    rfl
  | literal hl _ ih =>
    rw [List.append_assoc, splitList?_literal hl, ih, Option.map_map]
    simp [Function.comp_def]

/-! ## Strings and lists -/

theorem Text.dropLast?_concat (c : Char) (t : Text) : Text.dropLast? c (t ++ [c]) = some t := by
  induction t with
  | nil => exact if_pos rfl
  | cons d t ih =>
    cases t with
    | nil => simp [Text.dropLast?]
    | cons e t =>
      rw [List.cons_append, List.cons_append, Text.dropLast?, ← List.cons_append, ih]
      rfl

namespace Quoted

/-- A trimmed text that is one literal is that literal. -/
theorem eq_of_whole? {t v : Text} (ht : Text.IsTrimmed t) (h : whole? t = some v) :
    ∃ q : QuoteStyle, t = q.mark :: (v ++ [q.mark]) ∧ Zone.Leaves (.literal q) (v ++ [q.mark]) := by
  unfold whole? at h
  split at h
  · rename_i l hl
    obtain ⟨hempty, hv⟩ := Option.ite_none_right_eq_some.1 h
    obtain rfl : l.value = v := by simpa using hv
    obtain ⟨hdrop, hleaves⟩ := eq_of_read? hl
    rw [List.isEmpty_iff.1 hempty] at hdrop
    rw [dropWhile_isGap ht.1] at hdrop
    exact ⟨l.style, hdrop, hleaves⟩
  · simp at h

theorem whole?_literal {q : QuoteStyle} {v : Text}
    (hv : Zone.Leaves (.literal q) (v ++ [q.mark])) :
    whole? (q.mark :: (v ++ [q.mark])) = some v := by
  rw [whole?, read?_literal hv]
  rfl

/-- A literal and more is not one literal. -/
theorem whole?_literal_append {q : QuoteStyle} {v w : Text}
    (hv : Zone.Leaves (.literal q) (v ++ [q.mark])) (hw : w ≠ []) :
    whole? (q.mark :: (v ++ q.mark :: w)) = none := by
  rw [whole?, read?_literal hv]
  simp [hw]

end Quoted

namespace Value

theorem readScalar_ne_str (t v : Text) : readScalar t ≠ str v := by
  unfold readScalar
  extract_lets word
  have hword : word ≠ str v := by
    unfold word
    split_ifs <;> simp
  clear_value word
  split
  · rename_i r
    cases wordList? r with
    | none => exact hword
    | some ws => simp
  · rename_i r
    cases wordList? r with
    | none => exact hword
    | some ws => simp
  · split
    · simp
    · split
      · simp
      · exact hword
  · exact hword

/-- Strings are read from literals only. -/
theorem read_eq_str_iff {t v : Text} : read t = str v ↔ Quoted.whole? t.trim = some v := by
  unfold read
  split
  · rename_i s hs
    simp [hs]
  · rename_i hnone
    rw [hnone]
    split
    · simp
    · simp [readScalar_ne_str]

theorem trim_literal (q : QuoteStyle) (v : Text) :
    Text.trim (q.mark :: (v ++ [q.mark])) = q.mark :: (v ++ [q.mark]) := by
  have hmark : Text.isBlank q.mark = false := by cases q <;> rfl
  refine Text.trim_of_isTrimmed ⟨by simpa using hmark, ?_⟩
  rw [← List.cons_append, List.getLast?_concat]
  simpa using hmark

theorem read_literal {q : QuoteStyle} {v : Text}
    (hv : Zone.Leaves (.literal q) (v ++ [q.mark])) : read (q.mark :: (v ++ [q.mark])) = str v := by
  rw [read_eq_str_iff, trim_literal]
  exact Quoted.whole?_literal hv

theorem versions?_readScalar_mark (q : QuoteStyle) (t : Text) :
    (readScalar (q.mark :: t)).versions? = none := by
  unfold readScalar
  extract_lets word
  have hword : word.versions? = none := by
    unfold word
    split_ifs <;> rfl
  clear_value word
  cases q <;> exact hword

/-- A literal with more behind it gives no versions. -/
theorem versions?_literal_append {q : QuoteStyle} {v w : Text}
    (hv : Zone.Leaves (.literal q) (v ++ [q.mark])) (hw : w ≠ [])
    (htrim : Text.trim (q.mark :: (v ++ q.mark :: w)) = q.mark :: (v ++ q.mark :: w)) :
    (read (q.mark :: (v ++ q.mark :: w))).versions? = none := by
  have hbetween : Text.between? '[' ']' (q.mark :: (v ++ q.mark :: w)) = none := by
    cases q <;> rfl
  unfold read
  rw [htrim]
  split
  · rename_i s hs
    rw [Quoted.whole?_literal_append hv hw] at hs
    simp at hs
  · split
    · rename_i inner hinner
      rw [hbetween] at hinner
      simp at hinner
    · exact versions?_readScalar_mark q _

/-- The members of a list in square brackets are its arguments. -/
theorem read_list {t inner : Text} (ht : t = '[' :: (inner ++ [']'])) :
    read t = list ((splitArguments inner).map read) := by
  have htrim : t.trim = t := by
    refine Text.trim_of_isTrimmed ⟨?_, ?_⟩
    · intro c hc
      obtain rfl : '[' = c := by simpa [ht] using hc
      decide
    · intro c hc
      rw [ht, ← List.cons_append, List.getLast?_concat] at hc
      obtain rfl : ']' = c := by simpa using hc
      decide
  have hwhole : Quoted.whole? t.trim = none := by
    rw [htrim, ht]
    rfl
  have hbetween : Text.between? '[' ']' t.trim = some inner := by
    rw [htrim, ht, Text.between?, if_pos rfl]
    exact Text.dropLast?_concat _ _
  unfold read
  split
  · rename_i s hs
    rw [hwhole] at hs
    simp at hs
  · split
    · rename_i i hi
      obtain rfl : inner = i := by simpa [hbetween] using hi
      simp
    · rename_i hi
      rw [hbetween] at hi
      simp at hi

/-- A list gives versions when it has members and all of them are strings. -/
theorem versions?_list {vs : List Value} :
    (list vs).versions?.isSome = true ↔ vs ≠ [] ∧ ∀ v ∈ vs, ∃ t, v = str t := by
  have hmembers : (vs.mapM str?).isSome = true ↔ ∀ v ∈ vs, ∃ t, v = str t := by
    induction vs with
    | nil => simp
    | cons v vs ih =>
      rw [List.mapM_cons, List.forall_mem_cons, ← ih]
      cases v <;> cases vs.mapM str? <;> simp [str?]
  cases vs with
  | nil => simp [versions?]
  | cons v vs =>
    rw [versions?, if_neg (by simp), hmembers]
    simp

theorem isFlat_of_read_str {t v : Text} (h : read t = str v) : IsFlat t := by
  obtain ⟨b, b', hb, hb', ht⟩ := Text.exists_blanks_trim t
  obtain ⟨q, hq, hleaves⟩ := Quoted.eq_of_whole? (Text.isTrimmed_trim t) (read_eq_str_iff.1 h)
  have hliteral : IsLiteral t.trim := ⟨q, _, hq, hleaves⟩
  rw [ht]
  exact (isFlat_of_isBlanks hb).append (hliteral.isFlat.append (isFlat_of_isBlanks hb'))

/-- A list that gives versions is flat between its brackets. -/
theorem isFlat_of_versions? {inner : Text}
    (h : (read ('[' :: (inner ++ [']']))).versions?.isSome = true) : IsFlat inner := by
  rw [read_list rfl, versions?_list] at h
  rw [← join_splitCommas .code 0 inner]
  refine isFlat_join fun p hp => ?_
  by_cases hblank : Text.IsBlanks p
  · exact isFlat_of_isBlanks hblank
  · have hmem : p.trim ∈ splitArguments inner := by
      refine List.mem_filter.2 ⟨List.mem_map_of_mem hp, ?_⟩
      simpa [Text.trim_eq_nil_iff] using hblank
    obtain ⟨v, hv⟩ := h.2 _ (List.mem_map_of_mem hmem)
    obtain ⟨b, b', hb, hb', hsplit⟩ := Text.exists_blanks_trim p
    rw [hsplit]
    exact (isFlat_of_isBlanks hb).append
      ((isFlat_of_read_str hv).append (isFlat_of_isBlanks hb'))

end Value

end GemDeps
