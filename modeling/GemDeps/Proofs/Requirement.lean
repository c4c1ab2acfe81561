import GemDeps.Proofs.Reading

/-!
# The requirement of a statement

What the reader takes for the version of a statement, compared with the version arguments that
edits recognise. A constraint written in front of a rest is read as one whole argument when a comma
or nothing follows it, and then it is all of the requirement when the rest gives none of its own
(`requirement_constraint_iff`). A rest without version arguments gives one behind a single comma
only as a word list (`requirement_eq_none_iff`).
-/

namespace GemDeps

/-! ## Joined versions -/

theorem joinVersions_eq_none_iff {vs : List Text} :
    joinVersions vs = none ↔ ∀ v ∈ vs, Text.IsBlanks v := by
  unfold joinVersions
  dsimp only
  rw [ite_eq_left_iff]
  simp only [reduceCtorEq, imp_false, not_not, List.isEmpty_iff, List.filter_eq_nil_iff,
    List.mem_map, forall_exists_index, and_imp, forall_apply_eq_imp_iff₂, Bool.not_eq_true',
    Bool.not_eq_false, Text.trim_eq_nil_iff]

/-- One constraint is all of a requirement when the others are blank. -/
theorem joinVersions_cons_eq_some_iff {c : Text} {vs : List Text} (hc : c.trim = c) (hne : c ≠ []) :
    joinVersions (c :: vs) = some c ↔ joinVersions vs = none := by
  unfold joinVersions
  dsimp only
  rw [List.map_cons, hc, List.filter_cons_of_pos (by simpa using hne)]
  generalize (vs.map Text.trim).filter (!·.isEmpty) = kept
  cases kept with
  | nil => simp [Text.join_singleton]
  | cons v vs =>
    have hlong : (Text.join ", ".toList (c :: v :: vs)).length ≠ c.length := by
      simp [Text.join_cons_cons]
    simp only [List.isEmpty_cons, Bool.false_eq_true, if_false, Option.some.injEq, reduceCtorEq,
      iff_false]
    intro h
    exact hlong (congrArg List.length h)

/-! ## Pieces -/

theorem splitCommas_blanks {b : Text} (hb : Text.IsBlanks b) (d : Nat) (t : Text) :
    splitCommas .code d (b ++ t) = b.foldr consFirst (splitCommas .code d t) := by
  induction b with
  | nil => rfl
  | cons c b ih =>
    obtain ⟨hc, hb⟩ := List.forall_mem_cons.1 hb
    have hflat := IsFlatChar.of_eq_true (isFlatChar_of_isBlank hc)
    have hcomma : c ≠ ',' := by
      rintro rfl
      exact absurd hc (by decide)
    rw [List.cons_append, splitCommas, if_neg (by simp [hcomma]), hflat.next, hflat.depth, ih hb]
    rfl

theorem splitCommas_comma {b : Text} (hb : Text.IsBlanks b) (r : Text) :
    splitCommas .code 0 (b ++ ',' :: r) = b :: splitCommas .code 0 r := by
  rw [splitCommas_blanks hb, splitCommas, if_pos (by decide), foldr_consFirst, List.append_nil]

theorem splitCommas_of_isBlanks {b : Text} (hb : Text.IsBlanks b) :
    splitCommas .code 0 b = [b] := by
  have h := splitCommas_blanks hb 0 []
  rwa [List.append_nil, splitCommas, foldr_consFirst, List.append_nil] at h

/-- A piece that starts in some other character than a comma starts in it. -/
theorem exists_splitCommas_cons {c : Char} (hc : c ≠ ',') (r : Text) :
    ∃ p ps, splitCommas .code 0 (c :: r) = (c :: p) :: ps := by
  rw [splitCommas, if_neg (by simp [hc])]
  obtain ⟨p, ps, hps⟩ := List.exists_cons_of_ne_nil
    (splitCommas_ne_nil (Zone.next .code c) (bracketDepth .code 0 c) r)
  rw [hps]
  exact ⟨p, ps, rfl⟩

/-- The arguments that some pieces are: trimmed, without blank ones. -/
def keptArguments (ps : List Text) : List Text := (ps.map Text.trim).filter (!·.isEmpty)

theorem splitArguments_eq (t : Text) :
    splitArguments t = keptArguments (splitCommas .code 0 t) := rfl

theorem keptArguments_cons {p : Text} (hp : ¬ Text.IsBlanks p) (ps : List Text) :
    keptArguments (p :: ps) = p.trim :: keptArguments ps := by
  rw [keptArguments, List.map_cons, List.filter_cons_of_pos]
  · rfl
  · simpa [Text.trim_eq_nil_iff] using hp

theorem keptArguments_cons_of_isBlanks {p : Text} (hp : Text.IsBlanks p) (ps : List Text) :
    keptArguments (p :: ps) = keptArguments ps := by
  rw [keptArguments, List.map_cons, List.filter_cons_of_neg]
  · rfl
  · simpa [Text.trim_eq_nil_iff] using hp

/-! ## The text of the arguments -/

namespace Statement

/-- The code behind the name, up to the closing parenthesis. -/
def argumentText (s : Statement) : Text :=
  let code := stripComment s.rest
  if s.parenthesized then (beforeClosingParen? .code 0 code).getD code else code

/-- Of the line behind the name, the arguments see what stands in front of its comment and of the
closing parenthesis. -/
theorem arguments_congr {s s' : Statement} (h : s'.argumentText = s.argumentText) :
    s'.arguments = s.arguments := by
  unfold argumentText at h
  unfold arguments
  dsimp only at h ⊢
  rw [h]

/-- The name stands alone or a comma follows it. -/
def IsSeparated (s : Statement) : Prop :=
  ∀ c ∈ (Text.trimStart s.argumentText).head?, c = ','

theorem arguments_of_comma {s : Statement} {r : Text}
    (h : Text.trimStart s.argumentText = ',' :: r) : s.arguments = r := by
  unfold argumentText at h
  unfold arguments
  dsimp only at h ⊢
  rw [h]
  rfl

theorem arguments_of_isBlanks {s : Statement} (h : Text.IsBlanks s.argumentText) :
    s.arguments = s.argumentText := by
  rw [← Text.trimStart_eq_nil_iff] at h
  unfold argumentText at h ⊢
  unfold arguments
  dsimp only at h ⊢
  rw [h]

theorem arguments_of_ne_comma {s : Statement} {c : Char} {r : Text} (hc : c ≠ ',')
    (h : Text.trimStart s.argumentText = c :: r) : s.arguments = s.argumentText := by
  unfold argumentText at h ⊢
  unfold arguments
  dsimp only at h ⊢
  rw [h]
  split
  · rename_i heq
    exact absurd (List.cons.inj heq).1 hc
  · rfl

/-- What both scanners pass over in front of the rest stands in front of the arguments. -/
theorem argumentText_append {u : Text} (hcomment : IsUncommented u)
    (hparen : ∀ t, beforeClosingParen? .code 0 (u ++ t) =
      (beforeClosingParen? .code 0 t).map (u ++ ·)) (s : Statement) :
    argumentText { s with rest := u ++ s.rest } = u ++ s.argumentText := by
  unfold argumentText
  dsimp only
  rw [hcomment, hparen]
  split
  · cases beforeClosingParen? .code 0 (stripComment s.rest) <;> rfl
  · rfl

theorem argumentText_flat {u : Text} (hu : IsFlat u) (s : Statement) :
    argumentText { s with rest := u ++ s.rest } = u ++ s.argumentText :=
  argumentText_append hu.isUncommented (beforeClosingParen?_flat hu 0) s

end Statement

/-! ## A constraint in front of the rest -/

theorem leadingVersions_cons_str {a v : Text} (ha : Value.read a = .str v) (as : List Text) :
    (leadingVersions (a :: as)).1 = v :: (leadingVersions as).1 := by
  rw [leadingVersions, ha]
  rfl

theorem leadingVersions_cons_none {a : Text} (ha : (Value.read a).versions? = none)
    (as : List Text) : (leadingVersions (a :: as)).1 = [] := by
  rw [leadingVersions, ha]

theorem not_isBlanks_wrap_append (q : QuoteStyle) (c p : Text) :
    ¬ Text.IsBlanks (q.wrap c ++ p) := by
  intro h
  have hmark := h q.mark (by simp [QuoteStyle.wrap])
  rw [Text.isBlank_mark] at hmark
  cases hmark

/-- The arguments are the constraint, with what stands directly behind it, and the others. -/
theorem splitArguments_constraint (q : QuoteStyle) (c : Text) {t p : Text} {ps : List Text}
    (h : splitCommas .code 0 t = p :: ps) :
    splitArguments (' ' :: (q.wrap c ++ t)) =
      Text.trim (q.wrap c ++ p) :: keptArguments ps := by
  have hblank : Text.IsBlanks [' '] := List.forall_mem_singleton.2 (by decide)
  have hpieces : splitCommas .code 0 ([' '] ++ (q.wrap c ++ t)) =
      ([' '] ++ (q.wrap c ++ p)) :: ps := by
    rw [splitCommas_blanks hblank, splitCommas_literal (isLiteral_wrap q c), h, foldr_consFirst,
      foldr_consFirst]
  have hne : ¬ Text.IsBlanks ([' '] ++ (q.wrap c ++ p)) := by
    intro hall
    exact not_isBlanks_wrap_append q c p (List.forall_mem_append.1 hall).2
  have hnil : Text.IsBlanks [] := List.forall_mem_nil _
  have htrim := Text.trim_append hblank hnil (q.wrap c ++ p)
  rw [List.append_nil] at htrim
  rw [splitArguments_eq, ← List.singleton_append, hpieces, keptArguments_cons hne, htrim]

section Constraint

variable {c : Text} {q : QuoteStyle} (hescape : q.escape c = c)

include hescape

theorem wrap_eq : q.wrap c = q.mark :: (c ++ [q.mark]) := by
  rw [QuoteStyle.wrap, hescape]

theorem leaves_constraint : Zone.Leaves (.literal q) (c ++ [q.mark]) := by
  have h := leaves_escape q c
  rwa [hescape] at h

theorem read_wrap : Value.read (q.wrap c) = .str c := by
  rw [wrap_eq hescape]
  exact Value.read_literal (leaves_constraint hescape)

theorem trim_wrap_append {b : Text} (hb : Text.IsBlanks b) :
    Text.trim (q.wrap c ++ b) = q.wrap c := by
  have h := Text.trim_append (b := []) (by simp [Text.IsBlanks]) hb (q.wrap c)
  rw [List.nil_append] at h
  rw [h, wrap_eq hescape, Value.trim_literal]

/-- A constraint with more than blanks behind it is no version. -/
theorem versions?_constraint_append {b r : Text} {d : Char} (hd : Text.isBlank d = false) :
    (Value.read (Text.trim (q.wrap c ++ (b ++ d :: r)))).versions? = none := by
  have htrim : Text.trim (q.wrap c ++ (b ++ d :: r)) =
      q.mark :: (c ++ q.mark :: (b ++ d :: Text.trimEnd r)) := by
    have hsplit : q.wrap c ++ (b ++ d :: r) = q.mark :: (c ++ q.mark :: b) ++ [d] ++ r := by
      rw [wrap_eq hescape]
      simp
    rw [hsplit, Text.trim, List.append_assoc, List.cons_append,
      Text.trimStart_cons (Text.isBlank_mark q), ← List.cons_append, ← List.append_assoc,
      Text.trimEnd_concat_append hd]
    simp
  have htrim' := Text.trim_trim (q.wrap c ++ (b ++ d :: r))
  rw [htrim] at htrim' ⊢
  exact Value.versions?_literal_append (leaves_constraint hescape) (by simp) htrim'

end Constraint

/-- The requirement with a constraint in front of the rest is that constraint exactly when a comma
or nothing follows it and the rest gives no requirement of its own. -/
theorem requirement_constraint_iff {c : Text} {q : QuoteStyle} (hescape : q.escape c = c)
    (htrim : c.trim = c) (hne : c ≠ []) (s : Statement) :
    Statement.requirement { s with rest := ", ".toList ++ q.wrap c ++ s.rest } = some c ↔
      s.IsSeparated ∧ s.requirement = none := by
  have hflat := isFlat_constraint q c
  have harguments : Statement.arguments { s with rest := ", ".toList ++ q.wrap c ++ s.rest } =
      ' ' :: (q.wrap c ++ s.argumentText) := by
    apply Statement.arguments_of_comma
    rw [Statement.argumentText_flat hflat, List.append_assoc]
    exact Text.trimStart_cons (by decide) _
  have hsplit := Text.indentation_append_trimStart s.argumentText
  have hblanks := Text.isBlanks_indentation s.argumentText
  unfold Statement.requirement
  rw [harguments]
  cases htext : Text.trimStart s.argumentText with
  | nil =>
    have hblank : Text.IsBlanks s.argumentText := Text.trimStart_eq_nil_iff.1 htext
    rw [splitArguments_constraint q c (splitCommas_of_isBlanks hblank),
      trim_wrap_append hescape hblank, leadingVersions_cons_str (read_wrap hescape),
      Statement.arguments_of_isBlanks hblank, splitArguments_eq, splitCommas_of_isBlanks hblank,
      keptArguments_cons_of_isBlanks hblank, joinVersions_cons_eq_some_iff htrim hne]
    simp [Statement.IsSeparated, htext, keptArguments]
  | cons d r =>
    rw [htext] at hsplit
    by_cases hd : d = ','
    · subst hd
      have hpieces := splitCommas_comma hblanks r
      rw [hsplit] at hpieces
      rw [splitArguments_constraint q c hpieces, trim_wrap_append hescape hblanks,
        leadingVersions_cons_str (read_wrap hescape), Statement.arguments_of_comma htext,
        splitArguments_eq, joinVersions_cons_eq_some_iff htrim hne]
      simp [Statement.IsSeparated, htext]
    · obtain ⟨p, ps, hps⟩ := exists_splitCommas_cons hd r
      have hpieces := splitCommas_blanks hblanks 0 (d :: r)
      rw [hsplit, hps, foldr_consFirst] at hpieces
      rw [splitArguments_constraint q c hpieces, leadingVersions_cons_none
        (versions?_constraint_append hescape (Text.isBlank_of_trimStart htext))]
      simp [Statement.IsSeparated, htext, hd, joinVersions]

/-! ## A rest without version arguments -/

/-- The words of a word list of strings. -/
def wordArgument? : Text → Option (List Text)
  | '%' :: 'w' :: r => Value.wordList? r
  | _ => none

theorem exists_of_wordArgument? {a : Text} {ws : List Text} (h : wordArgument? a = some ws) :
    ∃ r, a = '%' :: 'w' :: r ∧ Value.wordList? r = some ws := by
  unfold wordArgument? at h
  split at h
  · exact ⟨_, rfl, h⟩
  · simp at h

theorem not_isBlanks_of_wordArgument? {a : Text} {ws : List Text} (h : wordArgument? a = some ws) :
    ∀ w ∈ ws, ¬ Text.IsBlanks w := by
  obtain ⟨r, -, hr⟩ := exists_of_wordArgument? h
  obtain ⟨inner, -, rfl⟩ := Option.map_eq_some_iff.1 hr
  exact fun w hw => Text.not_isBlanks_of_mem_words hw

theorem Value.versions?_words {ws : List Text} (hws : ws ≠ []) :
    (Value.list (ws.map .str)).versions? = some ws := by
  have hmembers : ∀ us : List Text, (us.map Value.str).mapM str? = some us := by
    intro us
    induction us with
    | nil => rfl
    | cons u us ih =>
      rw [List.map_cons, List.mapM_cons, ih]
      rfl
  rw [versions?, if_neg (by simpa using hws), hmembers]

theorem Value.read_wordArgument {a : Text} {ws : List Text} (htrim : a.trim = a)
    (h : wordArgument? a = some ws) : Value.read a = .list (ws.map .str) := by
  obtain ⟨r, rfl, hr⟩ := exists_of_wordArgument? h
  unfold Value.read
  rw [htrim]
  split
  · rename_i s hs
    have hwhole : Quoted.whole? ('%' :: 'w' :: r) = none := rfl
    rw [hwhole] at hs
    simp at hs
  · split
    · rename_i inner hinner
      have hbetween : Text.between? '[' ']' ('%' :: 'w' :: r) = none := rfl
      rw [hbetween] at hinner
      simp at hinner
    · simp [Value.readScalar, hr]

theorem Value.exists_of_versions?_readScalar {a : Text}
    (h : (Value.readScalar a).versions?.isSome = true) :
    ∃ ws, ws ≠ [] ∧ wordArgument? a = some ws := by
  unfold readScalar at h
  extract_lets word at h
  have hword : word.versions? = none := by
    unfold word
    split_ifs <;> rfl
  clear_value word
  split at h
  · rename_i r
    cases hr : wordList? r with
    | none => simp [hr, hword] at h
    | some ws =>
      rw [hr] at h
      refine ⟨ws, ?_, hr⟩
      rintro rfl
      simp [versions?] at h
  · rename_i r
    cases hr : wordList? r with
    | none => simp [hr, hword] at h
    | some ws =>
      rw [hr] at h
      change (list (ws.map symbol)).versions?.isSome = true at h
      obtain ⟨hne, hall⟩ := versions?_list.1 h
      obtain ⟨w, hw⟩ := List.exists_mem_of_ne_nil _ hne
      obtain ⟨t, ht⟩ := hall w hw
      obtain ⟨u, -, hu⟩ := List.mem_map.1 hw
      rw [← hu] at ht
      cases ht
  · split at h
    · simp [versions?] at h
    · split at h
      · simp [versions?] at h
      · simp [hword] at h
  · simp [hword] at h

/-- An argument that gives versions is a version token or a word list. -/
theorem isVersionToken_or_words {a : Text} (htrim : a.trim = a)
    (h : (Value.read a).versions?.isSome = true) :
    IsVersionToken a ∨ ∃ ws, ws ≠ [] ∧ wordArgument? a = some ws := by
  have htrimmed : Text.IsTrimmed a := htrim ▸ Text.isTrimmed_trim a
  cases hwhole : Quoted.whole? a with
  | some v =>
    obtain ⟨q, ha, hleaves⟩ := Quoted.eq_of_whole? htrimmed hwhole
    exact .inl (.inl ⟨q, _, ha, hleaves⟩)
  | none =>
    cases hbetween : Text.between? '[' ']' a with
    | some inner => exact .inl (.inr ⟨inner, Text.eq_of_between? hbetween, h⟩)
    | none =>
      have hread : Value.read a = Value.readScalar a := by
        unfold Value.read
        rw [htrim]
        split
        · rename_i s hs
          simp [hwhole] at hs
        · split
          · rename_i inner hinner
            simp [hbetween] at hinner
          · rfl
      rw [hread] at h
      exact .inr (Value.exists_of_versions?_readScalar h)

/-! ### What stands behind an argument -/

theorem head?_splitComment (z : Zone) (t : Text) : ∀ c ∈ (splitComment z t).2.head?, c = '#' := by
  fun_induction splitComment z t with
  | case1 => simp
  | case2 z c t h =>
    obtain ⟨-, rfl⟩ : z.isCode = true ∧ c = '#' := by simpa using h
    simp
  | case3 z c t h ih => exact ih

theorem eq_append_of_beforeClosingParen? {z : Zone} {d : Nat} {t u : Text}
    (h : beforeClosingParen? z d t = some u) : ∃ w, t = u ++ ')' :: w := by
  fun_induction beforeClosingParen? z d t generalizing u with
  | case1 => simp at h
  | case2 z d c t hc =>
    obtain ⟨⟨-, rfl⟩, -⟩ : (z.isCode = true ∧ c = ')') ∧ d = 0 := by simpa using hc
    obtain rfl : [] = u := by simpa using h
    exact ⟨t, rfl⟩
  | case3 => simp at h
  | case4 z d c t hparen hhash ih =>
    obtain ⟨v, hv, rfl⟩ := Option.map_eq_some_iff.1 h
    obtain ⟨w, rfl⟩ := ih hv
    exact ⟨w, rfl⟩

/-- Behind the arguments stands nothing, the closing parenthesis or a comment. -/
theorem Statement.exists_rest_eq (s : Statement) :
    ∃ w, s.rest = s.argumentText ++ w ∧ ∀ c ∈ w.head?, c = ')' ∨ c = '#' := by
  have hcode : stripComment s.rest ++ (splitComment .code s.rest).2 = s.rest :=
    splitComment_append .code s.rest
  have hcomment := head?_splitComment .code s.rest
  unfold argumentText
  dsimp only
  split
  · cases hparen : beforeClosingParen? .code 0 (stripComment s.rest) with
    | none =>
      refine ⟨_, hcode.symm, ?_⟩
      intro c hc
      exact .inr (hcomment c hc)
    | some u =>
      obtain ⟨w, hw⟩ := eq_append_of_beforeClosingParen? hparen
      refine ⟨')' :: w ++ (splitComment .code s.rest).2, ?_, ?_⟩
      · rw [Option.getD_some, ← List.append_assoc, ← hw, hcode]
      · intro c hc
        obtain rfl : ')' = c := by simpa using hc
        exact .inl rfl
  · refine ⟨_, hcode.symm, ?_⟩
    intro c hc
    exact .inr (hcomment c hc)

/-- Behind the first piece stands nothing or a comma. -/
theorem exists_eq_append_of_splitCommas {z : Zone} {d : Nat} {t p : Text} {ps : List Text}
    (h : splitCommas z d t = p :: ps) : ∃ w, t = p ++ w ∧ ∀ c ∈ w.head?, c = ',' := by
  have hjoin := join_splitCommas z d t
  rw [h] at hjoin
  cases ps with
  | nil =>
    refine ⟨[], ?_, by simp⟩
    simpa [Text.join_singleton] using hjoin.symm
  | cons q ps =>
    rw [Text.join_cons_cons] at hjoin
    exact ⟨_, hjoin.symm, by simp⟩

theorem continuesKey_eq_false {b w : Text} (hb : Text.IsBlanks b)
    (hw : ∀ c ∈ w.head?, c = ',' ∨ c = ')' ∨ c = '#') : continuesKey (b ++ w) = false := by
  unfold continuesKey
  rw [Text.trimStart_append hb]
  cases w with
  | nil => rfl
  | cons c w =>
    rcases hw c rfl with rfl | rfl | rfl <;> rfl

/-- A version token that is the first argument behind a single comma is a version argument. -/
theorem exists_dropVersionArgument? {s : Statement} {r p : Text} {ps : List Text}
    (hcomma : Text.trimStart s.argumentText = ',' :: r) (hp : splitCommas .code 0 r = p :: ps)
    (htoken : IsVersionToken p.trim) : ∃ w, dropVersionArgument? s.rest = some w := by
  obtain ⟨w, hrest, hw⟩ := s.exists_rest_eq
  obtain ⟨v, hr, hv⟩ := exists_eq_append_of_splitCommas hp
  obtain ⟨b, b', hb, hb', htrim⟩ := Text.exists_blanks_trim p
  have htext := Text.indentation_append_trimStart s.argumentText
  refine ⟨b' ++ (v ++ w), dropVersionArgument?_eq_some_iff.2
    ⟨Text.indentation s.argumentText, b, p.trim, Text.isBlanks_indentation s.argumentText, hb, ?_,
      htoken, ?_⟩⟩
  · calc s.rest = Text.indentation s.argumentText ++ Text.trimStart s.argumentText ++ w := by
          rw [htext, hrest]
      _ = Text.indentation s.argumentText ++ ',' :: (p ++ v) ++ w := by rw [hcomma, hr]
      _ = Text.indentation s.argumentText ++ ',' :: (b ++ (p.trim ++ b') ++ v) ++ w := by
          rw [← htrim]
      _ = _ := by simp
  · refine continuesKey_eq_false hb' ?_
    intro c hc
    cases v with
    | nil => exact .inr (hw c hc)
    | cons d v =>
      obtain rfl : d = c := by simpa using hc
      exact .inl (hv d rfl)

/-- The arguments behind a comma, where no version argument follows it, give a requirement exactly
when the first of them is a word list with words. -/
theorem joinVersions_eq_none_iff_words {s : Statement} {r : Text}
    (hdrop : dropVersionArgument? s.rest = none)
    (hcomma : Text.trimStart s.argumentText = ',' :: r)
    (hsingle : (Text.trimStart r).head? ≠ some ',') :
    joinVersions (leadingVersions (splitArguments r)).1 = none ↔
      ∀ a ∈ (splitArguments r).head?, ∀ ws, wordArgument? a = some ws → ws = [] := by
  have hsplit := Text.indentation_append_trimStart r
  have hblanks := Text.isBlanks_indentation r
  cases htext : Text.trimStart r with
  | nil =>
    have hblank : Text.IsBlanks r := Text.trimStart_eq_nil_iff.1 htext
    rw [splitArguments_eq, splitCommas_of_isBlanks hblank, keptArguments_cons_of_isBlanks hblank]
    simp [keptArguments, leadingVersions, joinVersions]
  | cons d r' =>
    rw [htext] at hsplit hsingle
    obtain ⟨p, ps, hps⟩ := exists_splitCommas_cons (c := d) (by simpa using hsingle) r'
    have hpieces := splitCommas_blanks hblanks 0 (d :: r')
    rw [hsplit, hps, foldr_consFirst] at hpieces
    -- The first piece is not blank, so it is the first argument.
    generalize hpiece : Text.indentation r ++ d :: p = piece at hpieces
    have hne : ¬ Text.IsBlanks piece := by
      intro hblank
      have hd := hblank d (by simp [← hpiece])
      rw [Text.isBlank_of_trimStart htext] at hd
      cases hd
    rw [splitArguments_eq, hpieces, keptArguments_cons hne]
    have htrim : piece.trim.trim = piece.trim := Text.trim_trim piece
    cases hversions : (Value.read piece.trim).versions? with
    | none =>
      rw [leadingVersions_cons_none hversions]
      refine iff_of_true rfl ?_
      intro a ha ws hws
      obtain rfl : piece.trim = a := by simpa using ha
      rw [Value.read_wordArgument htrim hws] at hversions
      by_contra hwords
      rw [Value.versions?_words hwords] at hversions
      cases hversions
    | some vs =>
      rcases isVersionToken_or_words htrim (by rw [hversions]; rfl) with htoken | ⟨ws, hws, hword⟩
      · obtain ⟨w, hw⟩ := exists_dropVersionArgument? hcomma hpieces htoken
        rw [hdrop] at hw
        cases hw
      · refine iff_of_false ?_ ?_
        · have hread := Value.read_wordArgument htrim hword
          rw [leadingVersions, hread, Value.versions?_words hws]
          rw [joinVersions_eq_none_iff]
          intro hblank
          obtain ⟨w, hw⟩ := List.exists_mem_of_ne_nil _ hws
          exact not_isBlanks_of_wordArgument? hword w hw (hblank w (List.mem_append_left _ hw))
        · intro hall
          exact hws (hall _ rfl ws hword)

/-- A rest without version arguments, in which nothing or a single comma follows the name, gives a
requirement exactly when the first argument is a word list with words. -/
theorem requirement_eq_none_iff {s : Statement} (hdrop : dropVersionArgument? s.rest = none)
    (hseparated : s.IsSeparated) (hsingle : (Text.trimStart s.arguments).head? ≠ some ',') :
    s.requirement = none ↔
      ∀ a ∈ (splitArguments s.arguments).head?, ∀ ws, wordArgument? a = some ws → ws = [] := by
  unfold Statement.requirement
  cases htext : Text.trimStart s.argumentText with
  | nil =>
    have hblank : Text.IsBlanks s.argumentText := Text.trimStart_eq_nil_iff.1 htext
    rw [Statement.arguments_of_isBlanks hblank, splitArguments_eq, splitCommas_of_isBlanks hblank,
      keptArguments_cons_of_isBlanks hblank]
    simp [keptArguments, leadingVersions, joinVersions]
  | cons c r =>
    obtain rfl : c = ',' := hseparated c (by rw [htext]; rfl)
    rw [Statement.arguments_of_comma htext] at hsingle ⊢
    exact joinVersions_eq_none_iff_words hdrop htext hsingle

end GemDeps
