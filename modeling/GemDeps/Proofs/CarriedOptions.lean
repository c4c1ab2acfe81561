import GemDeps.Proofs.PinnedRequirement
import GemDeps.Proofs.ReaderRun
import GemDeps.Proofs.VersionRuns

/-!
# Options behind the versions

The options of a statement are read from the arguments behind its versions. They depend only on what
is left of the rest of the line without its version arguments (`Statement.options_eq`), as long as
no option's mark stands at the start of that: an argument that a version starts and something else
goes on is then neither a version nor an option, whatever the version. So setting the constraint of
a statement keeps its options (`Statement.options_constraint`).
-/

namespace GemDeps

/-! ## Texts without a mark -/

/-- Behind the blanks at the start stands neither a colon nor an arrow. -/
def IsUnmarked (t : Text) : Prop :=
  ∀ b u, Text.IsBlanks b → t ≠ b ++ ':' :: u ∧ t ≠ b ++ '=' :: '>' :: u

theorem IsUnmarked.of_append {t u : Text} (h : IsUnmarked (t ++ u)) : IsUnmarked t := by
  intro b v hb
  constructor
  · rintro rfl
    exact (h b (v ++ u) hb).1 (by simp)
  · rintro rfl
    exact (h b (v ++ u) hb).2 (by simp)

theorem IsUnmarked.not_isKeyMark {t : Text} (h : IsUnmarked t) : ¬ IsKeyMark t := by
  rintro ⟨b, u, hb, ht | ⟨ht, -⟩⟩
  · exact (h b u hb).2 ht
  · exact (h b u hb).1 ht

/-- Where no doubled colon stands, what is left behind the version arguments has no mark unless the
name has one. -/
theorem isUnmarked_dropVersionArguments {t : Text}
    (hhead : ∀ c ∈ (Text.trimStart t).head?, c = ',' ∨ c = ')' ∨ c = '#')
    (hcolons : ¬ "::".toList <:+: t) : IsUnmarked (dropVersionArguments t) := by
  have hkey : continuesKey t = false := by
    have hsplit := Text.indentation_append_trimStart t
    rw [← hsplit]
    exact continuesKey_eq_false (Text.isBlanks_indentation t) hhead
  rw [← continuesKey_dropVersionArguments_eq, continuesKey_eq_false_iff] at hkey
  obtain ⟨segments, ht, -⟩ := exists_isVersionRun t
  intro b u hb
  refine ⟨fun hu => ?_, fun hu => hkey ⟨b, u, hb, .inl hu⟩⟩
  by_cases hcolon : u.head? = some ':'
  · obtain ⟨v, rfl⟩ := List.head?_eq_some_iff.1 hcolon
    exact hcolons ⟨segments.flatten ++ b, v, by rw [ht, hu]; simp⟩
  · exact hkey ⟨b, u, hb, .inr ⟨hu, hcolon⟩⟩

/-! ## Arguments that start with a token -/

namespace Value

/-- Only a text with a colon in front is a symbol. -/
theorem exists_of_read_eq_symbol {t name : Text} (h : read t = symbol name) :
    ∃ r, t.trim = ':' :: r := by
  unfold read at h
  split at h
  · simp at h
  · split at h
    · simp at h
    · unfold readScalar at h
      extract_lets word at h
      have hword : ∀ n, word ≠ symbol n := by
        intro n
        unfold word
        split_ifs <;> simp
      clear_value word
      split at h
      · rename_i r _
        cases hr : wordList? r with
        | none => simp [hr, hword] at h
        | some ws => simp [hr] at h
      · rename_i r _
        cases hr : wordList? r with
        | none => simp [hr, hword] at h
        | some ws => simp [hr] at h
      · exact ⟨_, by assumption⟩
      · exact absurd h (hword name)

theorem bareKey?_of_not_startsIdentifier {c : Char} (hc : Text.startsIdentifier c = false)
    (hcolon : c ≠ ':') (t : Text) : bareKey? (c :: t) = none := by
  have hkey : (c :: t).takeWhile (· != ':') = c :: t.takeWhile (· != ':') :=
    List.takeWhile_cons_of_pos (by simpa using hcolon)
  have hidentifier : Text.isIdentifier (c :: t.takeWhile (· != ':')) = false := by
    simp [Text.isIdentifier, hc]
  unfold bareKey?
  dsimp only
  rw [hkey, hidentifier]
  split <;> rfl

end Value

/-- The characters with which tokens start. -/
def tokenMarks : List Char := ['[', '\'', '"']

theorem of_mem_tokenMarks {c : Char} (h : c ∈ tokenMarks) :
    Text.isBlank c = false ∧ Text.startsIdentifier c = false ∧ c ≠ ':' := by
  simp only [tokenMarks, List.mem_cons, List.not_mem_nil, or_false] at h
  rcases h with rfl | rfl | rfl <;> decide

section Token

variable {k : Text} (hk : IsVersionToken k)

include hk

theorem IsVersionToken.exists_mark : ∃ c ∈ tokenMarks, ∃ t, k = c :: t := by
  rcases hk with ⟨q, u, rfl, -⟩ | ⟨inner, rfl, -⟩
  · exact ⟨q.mark, by cases q <;> decide, u, rfl⟩
  · exact ⟨'[', by decide, _, rfl⟩

theorem IsVersionToken.isTrimmed : Text.IsTrimmed k := by
  obtain ⟨c, t, hc, hblank⟩ := hk.exists_cons
  obtain ⟨s, d, hd, hlast, -⟩ := hk.isFinished.last
  refine ⟨fun e he => ?_, fun e he => ?_⟩
  · rw [hc] at he
    cases he
    exact hblank
  · rw [hd, List.getLast?_concat] at he
    cases he
    exact hlast

theorem not_isBlanks_token (b p : Text) : ¬ Text.IsBlanks (b ++ (k ++ p)) := by
  obtain ⟨c, u, rfl, hc⟩ := hk.exists_cons
  intro hall
  simpa [hc] using hall c (by simp)

/-- A token with more behind it is no version. -/
theorem versions?_token_append {p : Text} (hne : p ≠ []) (htrim : Text.IsTrimmed (k ++ p)) :
    (Value.read (k ++ p)).versions? = none := by
  by_contra hsome
  rcases isVersionToken_or_words (Text.trim_of_isTrimmed htrim)
    (Option.isSome_iff_ne_none.2 hsome) with htoken | ⟨ws, -, hwords⟩
  · -- Cut off as a token, the whole leaves nothing behind, and the first token leaves `p`.
    have hcut := htoken.argumentToken?_append []
    rw [List.append_nil, hk.argumentToken?_append p] at hcut
    exact hne (congrArg Prod.snd (Option.some.inj hcut))
  · obtain ⟨r, hr, -⟩ := exists_of_wordArgument? hwords
    obtain ⟨c, hc, t, rfl⟩ := hk.exists_mark
    obtain rfl : c = '%' := (List.cons.inj hr).1
    exact absurd hc (by decide)

/-- What starts with a token is a string only as that token. -/
theorem text?_read_eq_none {p x w : Text} (hx : k ++ p = x ++ w) (hne : x ≠ [])
    (hw : ∀ b, Text.IsBlanks b → p ≠ b ++ w) : (Value.read x).text? = none := by
  obtain ⟨c, hmark, t, hc⟩ := hk.exists_mark
  obtain ⟨d, y, rfl⟩ := List.exists_cons_of_ne_nil hne
  obtain rfl : c = d := by
    rw [hc] at hx
    exact (List.cons.inj hx).1
  have hblank := (of_mem_tokenMarks hmark).1
  obtain ⟨b, hb, hy⟩ := Text.exists_trimEnd_append y
  replace hy : c :: y = Text.trim (c :: y) ++ b := by
    rw [Text.trim_cons hblank, List.cons_append, ← hy]
  cases hread : Value.read (c :: y) with
  | str v =>
    obtain ⟨q, hq, hleaves⟩ :=
      Quoted.eq_of_whole? (Text.isTrimmed_trim _) (Value.read_eq_str_iff.1 hread)
    have htoken : IsVersionToken (Text.trim (c :: y)) := .inl ⟨q, _, hq, hleaves⟩
    -- Both tokens are cut off the same text.
    have hcut := hk.argumentToken?_append p
    rw [hx, hy, List.append_assoc, htoken.argumentToken?_append] at hcut
    exact absurd (congrArg Prod.snd (Option.some.inj hcut)).symm (hw b hb)
  | symbol name =>
    obtain ⟨r, hr⟩ := Value.exists_of_read_eq_symbol hread
    rw [hr] at hy
    obtain rfl : c = ':' := (List.cons.inj hy).1
    exact absurd hmark (by decide)
  | _ => rfl

/-- Nor is it an option, unless the mark of one follows the token. -/
theorem pair?_token_append {p : Text} (hp : IsUnmarked p) (htrim : Text.IsTrimmed (k ++ p)) :
    Value.pair? (k ++ p) = none := by
  obtain ⟨c, hmark, t, hc⟩ := hk.exists_mark
  rw [Value.pair?, Text.trim_of_isTrimmed htrim]
  split
  · rename_i x v harrow
    have hsplit : k ++ p = x ++ '=' :: '>' :: v := eq_of_splitArrow? harrow
    have hne : x ≠ [] := by
      rintro rfl
      rw [hc] at hsplit
      obtain rfl : c = '=' := (List.cons.inj hsplit).1
      exact absurd hmark (by decide)
    rw [text?_read_eq_none hk hsplit hne fun b hb => (hp b v hb).2]
    rfl
  · split
    · rename_i q key r hread
      rcases hk with hk | ⟨inner, rfl, -⟩
      · obtain ⟨q', v, rfl, hv⟩ := hk.eq_wrapped
        rw [List.cons_append, List.append_assoc, List.singleton_append,
          Quoted.read?_literal hv] at hread
        exact absurd (congrArg Quoted.rest (Option.some.inj hread))
          (hp [] r (List.forall_mem_nil _)).1
      · cases hread
    · obtain ⟨-, hidentifier, hcolon⟩ := of_mem_tokenMarks hmark
      rw [hc]
      exact Value.bareKey?_of_not_startsIdentifier hidentifier hcolon _

end Token

/-! ## Arguments behind a closing parenthesis -/

/-- Code that starts with a closing parenthesis is no literal. -/
theorem Value.exists_read_paren {t x : Text} (ht : t.trim = ')' :: x) :
    ∃ code, read t = other code := by
  have hwhole : Quoted.whole? t.trim = none := by
    rw [ht]
    rfl
  have hbetween : Text.between? '[' ']' t.trim = none := by
    rw [ht]
    rfl
  unfold read
  split
  · rename_i hs
    rw [hwhole] at hs
    cases hs
  · split
    · rename_i hs
      rw [hbetween] at hs
      cases hs
    · rw [ht]
      exact ⟨_, rfl⟩

theorem Value.pair?_paren {t x : Text} (ht : t.trim = ')' :: x) : pair? t = none := by
  rw [pair?, ht]
  split
  · rename_i y v harrow
    have hsplit : ')' :: x = y ++ '=' :: '>' :: v := eq_of_splitArrow? harrow
    cases y with
    | nil => cases hsplit
    | cons c y =>
      obtain rfl : ')' = c := (List.cons.inj hsplit).1
      obtain ⟨code, hcode⟩ := exists_read_paren (Text.trim_cons (by decide) y)
      rw [hcode]
      rfl
  · exact bareKey?_of_not_startsIdentifier (by decide) (by decide) x

/-! ## What follows the versions -/

/-- The options in some arguments. -/
def optionsOf (arguments : List Text) : List (Text × Value) :=
  (leadingVersions arguments).2.filterMap Value.pair?

theorem Statement.options_eq_optionsOf (s : Statement) :
    s.options = optionsOf (splitArguments s.arguments) := rfl

theorem optionsOf_cons_version {a : Text} (ha : (Value.read a).versions?.isSome = true)
    (as : List Text) : optionsOf (a :: as) = optionsOf as := by
  obtain ⟨vs, hvs⟩ := Option.isSome_iff_exists.1 ha
  rw [optionsOf, leadingVersions, hvs]
  rfl

theorem optionsOf_cons_none {a : Text} (ha : (Value.read a).versions? = none)
    (hpair : Value.pair? a = none) (as : List Text) :
    optionsOf (a :: as) = as.filterMap Value.pair? := by
  rw [optionsOf, leadingVersions, ha]
  exact List.filterMap_cons_none hpair

/-- The options behind a version, when these pieces follow it: the first piece goes on with the
version's argument, and only when it is blank may other versions follow. -/
def optionsBehind : List Text → List (Text × Value)
  | [] => []
  | p :: ps =>
    if p.trim = [] then optionsOf (keptArguments ps)
    else (keptArguments ps).filterMap Value.pair?

/-- Behind a token the options do not depend on the token. -/
theorem optionsOf_token {b k t : Text} (hb : Text.IsBlanks b) (hk : IsVersionToken k)
    (ht : IsUnmarked t) :
    optionsOf (splitArguments (b ++ (k ++ t))) = optionsBehind (splitCommas .code 0 t) := by
  obtain ⟨p, ps, hps⟩ := List.exists_cons_of_ne_nil (splitCommas_ne_nil .code 0 t)
  obtain ⟨w, hw, -⟩ := exists_eq_append_of_splitCommas hps
  have hnil : Text.IsBlanks [] := List.forall_mem_nil _
  have hpieces : splitArguments (b ++ (k ++ t)) = Text.trim (k ++ p) :: keptArguments ps := by
    have htrim := Text.trim_append hb hnil (k ++ p)
    rw [List.append_nil] at htrim
    rw [splitArguments_eq, splitCommas_blanks hb, hk.splitCommas_append, hps, foldr_consFirst,
      foldr_consFirst, keptArguments_cons (not_isBlanks_token hk b p), htrim]
  rw [hpieces, hps, optionsBehind]
  split
  · rename_i hp
    have htrim := Text.trim_append hnil (Text.trim_eq_nil_iff.1 hp) k
    rw [List.nil_append, Text.trim_of_isTrimmed hk.isTrimmed] at htrim
    rw [htrim]
    exact optionsOf_cons_version hk.isSome_versions? _
  · rename_i hp
    obtain ⟨b', hb', hp'⟩ := Text.exists_trimEnd_append p
    have htrim : Text.trim (k ++ p) = k ++ Text.trimEnd p := by
      obtain ⟨s, d, hd, hlast, -⟩ := hk.isFinished.last
      rw [Text.trim, hk.trimStart_append, hd, Text.trimEnd_concat_append hlast]
    have hne : Text.trimEnd p ≠ [] := by
      intro hnil
      rw [hnil, List.nil_append] at hp'
      rw [hp', Text.trim_eq_nil_iff] at hp
      exact hp hb'
    have hunmarked : IsUnmarked (Text.trimEnd p) := by
      rw [hw, hp'] at ht
      exact ht.of_append.of_append
    have hisTrimmed := Text.isTrimmed_trim (k ++ p)
    rw [htrim] at hisTrimmed ⊢
    exact optionsOf_cons_none (versions?_token_append hk hne hisTrimmed)
      (pair?_token_append hk hunmarked hisTrimmed) _

/-- Behind a run of version arguments the options do not depend on the run. -/
theorem optionsOf_segments {segments : List Text} (hsegments : ∀ s ∈ segments, IsVersionSegment s)
    {b k t : Text} (hb : Text.IsBlanks b) (hk : IsVersionToken k) (ht : IsUnmarked t) :
    optionsOf (splitArguments (b ++ (k ++ (segments.flatten ++ t)))) =
      optionsBehind (splitCommas .code 0 t) := by
  induction segments generalizing b k with
  | nil => exact optionsOf_token hb hk ht
  | cons s segments ih =>
    obtain ⟨⟨b', b'', k', hb', hb'', hk', rfl⟩, hrest⟩ := List.forall_mem_cons.1 hsegments
    have hpieces : splitArguments
        (b ++ (k ++ (b' ++ ',' :: (b'' ++ (k' ++ (segments.flatten ++ t)))))) =
          k :: splitArguments (b'' ++ (k' ++ (segments.flatten ++ t))) := by
      have htrim : Text.trim (b ++ (k ++ b')) = k := by
        rw [Text.trim_append hb hb', Text.trim_of_isTrimmed hk.isTrimmed]
      rw [splitArguments_eq, splitCommas_blanks hb, hk.splitCommas_append, splitCommas_comma hb',
        foldr_consFirst, foldr_consFirst, keptArguments_cons (not_isBlanks_token hk b b'), htrim]
      rfl
    rw [List.flatten_cons, List.append_assoc, List.append_assoc, List.cons_append,
      List.append_assoc, hpieces, optionsOf_cons_version hk.isSome_versions?]
    exact ih hrest hb'' (isVersionToken_iff.2 hk')

/-! ## The options of a statement -/

theorem IsVersionSegment.beforeClosingParen?_append {s : Text} (hs : IsVersionSegment s)
    (t : Text) :
    beforeClosingParen? .code 0 (s ++ t) = (beforeClosingParen? .code 0 t).map (s ++ ·) := by
  obtain ⟨opening, k, hopening, hk, rfl⟩ := hs.exists_opening
  rw [List.append_assoc, beforeClosingParen?_flat hopening, hk.beforeClosingParen?_append,
    Option.map_map]
  simp [Function.comp_def]

namespace Statement

/-- A run of version arguments in front of the rest stands in front of the arguments. -/
theorem argumentText_segments {segments : List Text}
    (hsegments : ∀ s ∈ segments, IsVersionSegment s) (stmt : Statement) :
    argumentText { stmt with rest := segments.flatten ++ stmt.rest } =
      segments.flatten ++ stmt.argumentText := by
  induction segments with
  | nil => rfl
  | cons s segments ih =>
    obtain ⟨hs, hsegments⟩ := List.forall_mem_cons.1 hsegments
    rw [List.flatten_cons, List.append_assoc, List.append_assoc, ← ih hsegments]
    exact argumentText_append hs.isFinished.uncommented hs.beforeClosingParen?_append
      { stmt with rest := segments.flatten ++ stmt.rest }

theorem exists_stripComment_eq (s : Statement) :
    ∃ w, stripComment s.rest = s.argumentText ++ w := by
  unfold argumentText
  dsimp only
  split
  · cases hclose : beforeClosingParen? .code 0 (stripComment s.rest) with
    | none => exact ⟨[], (List.append_nil _).symm⟩
    | some u =>
      obtain ⟨w, hw⟩ := eq_append_of_beforeClosingParen? hclose
      exact ⟨_, hw⟩
  · exact ⟨[], (List.append_nil _).symm⟩

/-- The code behind the name starts with a comma, or with a closing parenthesis, or is blank. -/
theorem argumentText_cases {s : Statement}
    (hhead : ∀ c ∈ (Text.trimStart s.rest).head?, c = ',' ∨ c = ')' ∨ c = '#') :
    Text.IsBlanks s.argumentText ∨
      ∃ b c r, Text.IsBlanks b ∧ (c = ',' ∨ c = ')') ∧ s.argumentText = b ++ c :: r := by
  have hsplit := Text.indentation_append_trimStart s.argumentText
  have hb := Text.isBlanks_indentation s.argumentText
  generalize Text.indentation s.argumentText = b at hsplit hb
  cases htext : Text.trimStart s.argumentText with
  | nil => exact .inl (Text.trimStart_eq_nil_iff.1 htext)
  | cons c r =>
    rw [htext] at hsplit
    obtain ⟨w, hw⟩ := s.exists_stripComment_eq
    rw [← hsplit, List.append_assoc, List.cons_append] at hw
    have hrest := splitComment_append .code s.rest
    rw [show (splitComment .code s.rest).1 = _ from hw, List.append_assoc,
      List.cons_append] at hrest
    have hfirst := hhead c (by
      rw [← hrest, Text.trimStart_append hb, Text.trimStart_cons (Text.isBlank_of_trimStart htext)]
      rfl)
    refine .inr ⟨b, c, r, hb, ?_, hsplit.symm⟩
    rcases hfirst with hc | hc | rfl
    · exact .inl hc
    · exact .inr hc
    · -- A comment is no code, and the arguments are code.
      rw [← hrest, (isFlat_of_isBlanks hb).isUncommented, List.append_cancel_left_eq] at hw
      cases hw

/-- The first piece of the arguments is blank, or starts with a closing parenthesis and is no
option. -/
theorem options_eq_optionsBehind {s : Statement}
    (hhead : ∀ c ∈ (Text.trimStart s.rest).head?, c = ',' ∨ c = ')' ∨ c = '#') :
    s.options = optionsBehind (splitCommas .code 0 s.argumentText) := by
  rw [options_eq_optionsOf]
  rcases argumentText_cases hhead with hblank | ⟨b, c, r, hb, rfl | rfl, htext⟩
  · rw [arguments_of_isBlanks hblank, splitArguments_eq, splitCommas_of_isBlanks hblank,
      keptArguments_cons_of_isBlanks hblank, optionsBehind, if_pos (Text.trim_eq_nil_iff.2 hblank)]
  · have harguments : s.arguments = r := arguments_of_comma (by
      rw [htext, Text.trimStart_append hb, Text.trimStart_cons (by decide)])
    rw [harguments, htext, splitCommas_comma hb, optionsBehind,
      if_pos (Text.trim_eq_nil_iff.2 hb)]
    rfl
  · have harguments : s.arguments = s.argumentText := arguments_of_ne_comma (c := ')') (r := r)
      (by decide) (by rw [htext, Text.trimStart_append hb, Text.trimStart_cons (by decide)])
    obtain ⟨p, ps, hps⟩ := exists_splitCommas_cons (c := ')') (by decide) r
    have hpieces : splitCommas .code 0 s.argumentText = (b ++ ')' :: p) :: ps := by
      rw [htext, splitCommas_blanks hb, hps, foldr_consFirst]
    have htrim : Text.trim (b ++ ')' :: p) = ')' :: Text.trimEnd p := by
      rw [Text.trim, Text.trimStart_append hb, ← Text.trim, Text.trim_cons (by decide)]
    have hne : Text.trim (b ++ ')' :: p) ≠ [] := by
      rw [htrim]
      exact List.cons_ne_nil _ _
    have htwice := (Text.trim_trim (b ++ ')' :: p)).trans htrim
    obtain ⟨code, hcode⟩ := Value.exists_read_paren htwice
    rw [harguments, splitArguments_eq, hpieces,
      keptArguments_cons (mt Text.trim_eq_nil_iff.2 hne), optionsBehind, if_neg hne]
    refine optionsOf_cons_none ?_ (Value.pair?_paren htwice) _
    rw [hcode]
    rfl

/-- Versions behind the name: the options are read behind the last one. -/
theorem options_eq_of_segments {s : Statement} {segment : Text} {segments : List Text}
    (hrest : s.rest = (segment :: segments).flatten ++ dropVersionArguments s.rest)
    (hsegments : ∀ x ∈ segment :: segments, IsVersionSegment x)
    (htext : IsUnmarked s.unversioned.argumentText) :
    s.options = optionsBehind (splitCommas .code 0 s.unversioned.argumentText) := by
  have hargument :
      s.argumentText = (segment :: segments).flatten ++ s.unversioned.argumentText := by
    rw [← argumentText_segments hsegments s.unversioned]
    exact congrArg (fun r => argumentText { s with rest := r }) hrest
  obtain ⟨⟨b, b', k, hb, hb', hk, rfl⟩, hothers⟩ := List.forall_mem_cons.1 hsegments
  -- The first comma stands in front of the first version.
  have harguments : s.arguments =
      b' ++ (k ++ (segments.flatten ++ s.unversioned.argumentText)) := by
    apply arguments_of_comma
    rw [hargument, List.flatten_cons, List.append_assoc, List.append_assoc,
      Text.trimStart_append hb, List.cons_append, Text.trimStart_cons (by decide),
      List.append_assoc]
  rw [options_eq_optionsOf, harguments]
  exact optionsOf_segments hothers hb' (isVersionToken_iff.2 hk) htext

/-- The options of a statement depend only on what is left without its version arguments. -/
theorem options_eq {s : Statement}
    (hhead : ∀ c ∈ (Text.trimStart s.rest).head?, c = ',' ∨ c = ')' ∨ c = '#')
    (hunmarked : IsUnmarked (dropVersionArguments s.rest)) :
    s.options = optionsBehind (splitCommas .code 0 s.unversioned.argumentText) := by
  obtain ⟨segments, hrest, hrun⟩ := exists_isVersionRun s.rest
  cases segments with
  | nil =>
    have hsame : s.unversioned = s := by
      rw [unversioned, ← List.nil_append (dropVersionArguments s.rest), ← List.flatten_nil, ← hrest]
    rw [hsame]
    exact options_eq_optionsBehind hhead
  | cons segment segments =>
    obtain ⟨w, hw, -⟩ := s.unversioned.exists_rest_eq
    rw [show dropVersionArguments s.rest = _ from hw] at hunmarked
    exact options_eq_of_segments hrest hrun.segments hunmarked.of_append

/-- Setting the constraint keeps the options. -/
theorem options_constraint {s : Statement}
    (hhead : ∀ c ∈ (Text.trimStart s.rest).head?, c = ',' ∨ c = ')' ∨ c = '#')
    (hcolons : ¬ "::".toList <:+: s.rest) (q q' : QuoteStyle) (constraint : Text) :
    options { s with
      quote := q', rest := ", ".toList ++ q.wrap constraint ++ dropVersionArguments s.rest } =
      s.options := by
  have hunmarked := isUnmarked_dropVersionArguments hhead hcolons
  have hdrop := dropVersionArguments_constraint
    (continuesKey_eq_false_iff.2 hunmarked.not_isKeyMark) q constraint
  have hcomma : ∀ c ∈ (Text.trimStart (", ".toList ++ q.wrap constraint ++
      dropVersionArguments s.rest)).head?, c = ',' ∨ c = ')' ∨ c = '#' := by
    rw [show ", ".toList = ',' :: [' '] from rfl, List.cons_append, List.cons_append,
      Text.trimStart_cons (by decide)]
    exact fun c hc => .inl (Option.some.inj hc).symm
  rw [options_eq hhead hunmarked, options_eq hcomma (hdrop.symm ▸ hunmarked)]
  unfold unversioned
  dsimp only
  rw [hdrop]
  rfl

end Statement

end GemDeps
