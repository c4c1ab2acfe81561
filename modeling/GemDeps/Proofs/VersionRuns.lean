import GemDeps.Proofs.PinAlgebra

/-!
# The run of version arguments

What is dropped from the rest of a line is the longest run of version arguments at its start and
nothing behind it (`dropVersionArguments_run`). A version argument is described by its form alone: a
comma between blanks, and a string or a list of strings that no option's mark follows
(`dropVersionArgument?_eq_some_iff_segment`). So an edit carries over all that follows the run as it
stands, with any comment in it.
-/

namespace GemDeps

/-! ## Tokens and marks -/

/-- Square brackets around at least one argument, and every argument a literal. -/
def IsStringList (k : Text) : Prop :=
  ∃ inner, k = '[' :: (inner ++ [']']) ∧ splitArguments inner ≠ [] ∧
    ∀ p ∈ splitArguments inner, IsLiteral p

theorem isTrimmed_of_mem_splitArguments {t p : Text} (h : p ∈ splitArguments t) :
    Text.IsTrimmed p := by
  obtain ⟨q, -, rfl⟩ := List.mem_map.1 (List.mem_filter.1 h).1
  exact Text.isTrimmed_trim q

theorem exists_read_eq_str_iff {p : Text} (htrim : Text.IsTrimmed p) :
    (∃ v, Value.read p = .str v) ↔ IsLiteral p := by
  constructor
  · rintro ⟨v, hv⟩
    rw [Value.read_eq_str_iff, Text.trim_of_isTrimmed htrim] at hv
    obtain ⟨q, hq, hleaves⟩ := Quoted.eq_of_whole? htrim hv
    exact ⟨q, _, hq, hleaves⟩
  · intro hp
    obtain ⟨q, v, rfl, hv⟩ := hp.eq_wrapped
    exact ⟨v, Value.read_literal hv⟩

/-- The brackets give versions when the arguments between them are strings. -/
theorem isVersionToken_iff {k : Text} : IsVersionToken k ↔ IsLiteral k ∨ IsStringList k := by
  refine or_congr_right (exists_congr fun inner => and_congr_right fun hk => ?_)
  rw [Value.read_list hk, Value.versions?_list, ne_eq, List.map_eq_nil_iff, List.forall_mem_map]
  exact and_congr_right fun _ => forall₂_congr fun p hp =>
    exists_read_eq_str_iff (isTrimmed_of_mem_splitArguments hp)

/-- Blanks and then an arrow, or a colon that is not doubled: what stands in front is the key of an
option. -/
def IsKeyMark (t : Text) : Prop :=
  ∃ b u, Text.IsBlanks b ∧
    (t = b ++ '=' :: '>' :: u ∨ (t = b ++ ':' :: u ∧ u.head? ≠ some ':'))

theorem continuesKey_eq_true_iff {t : Text} : continuesKey t = true ↔ IsKeyMark t := by
  constructor
  · intro h
    have ht := Text.indentation_append_trimStart t
    unfold continuesKey at h
    split at h
    · rename_i u hu
      exact ⟨_, u, Text.isBlanks_indentation t, .inl (by rw [← hu, ht])⟩
    · simp at h
    · rename_i u hdouble hu
      refine ⟨_, u, Text.isBlanks_indentation t, .inr ⟨by rw [← hu, ht], fun hhead => ?_⟩⟩
      obtain ⟨v, rfl⟩ := List.head?_eq_some_iff.1 hhead
      exact hdouble v rfl
    · simp at h
  · rintro ⟨b, u, hb, rfl | ⟨rfl, hu⟩⟩
    · rw [continuesKey, Text.trimStart_append hb, Text.trimStart_cons (by decide)]
      rfl
    · rw [continuesKey, Text.trimStart_append hb, Text.trimStart_cons (by decide)]
      split
      · rename_i heq
        simp at heq
      · rename_i heq
        obtain rfl := List.tail_eq_of_cons_eq heq
        exact absurd rfl hu
      · rfl
      · rename_i hcolon
        exact absurd rfl (hcolon u)

theorem continuesKey_eq_false_iff {t : Text} : continuesKey t = false ↔ ¬ IsKeyMark t := by
  rw [← continuesKey_eq_true_iff, Bool.not_eq_true]

/-! ## Segments -/

/-- A comma between blanks, and a string or a list of strings. -/
def IsVersionSegment (s : Text) : Prop :=
  ∃ b b' k, Text.IsBlanks b ∧ Text.IsBlanks b' ∧ (IsLiteral k ∨ IsStringList k) ∧
    s = b ++ ',' :: (b' ++ k)

/-- A segment is a token behind a flat text. -/
theorem IsVersionSegment.exists_opening {s : Text} (hs : IsVersionSegment s) :
    ∃ opening k, IsFlat opening ∧ IsVersionToken k ∧ s = opening ++ k := by
  obtain ⟨b, b', k, hb, hb', hk, rfl⟩ := hs
  refine ⟨b ++ ',' :: b', k, ?_, isVersionToken_iff.2 hk, by simp⟩
  exact (isFlat_of_isBlanks hb).append (.cons (by decide) (isFlat_of_isBlanks hb'))

theorem IsVersionSegment.isFinished {s : Text} (hs : IsVersionSegment s) : IsFinished s := by
  obtain ⟨opening, k, hopening, hk, rfl⟩ := hs.exists_opening
  exact hk.isFinished.append_left hopening.isUncommented

/-- A version argument is dropped exactly when it is a segment that no option's mark follows. -/
theorem dropVersionArgument?_eq_some_iff_segment {t r : Text} :
    dropVersionArgument? t = some r ↔ ∃ s, IsVersionSegment s ∧ t = s ++ r ∧ ¬ IsKeyMark r := by
  rw [dropVersionArgument?_eq_some_iff]
  constructor
  · rintro ⟨b, b', k, hb, hb', rfl, hk, hkey⟩
    exact ⟨b ++ ',' :: (b' ++ k), ⟨b, b', k, hb, hb', isVersionToken_iff.1 hk, rfl⟩, by simp,
      continuesKey_eq_false_iff.1 hkey⟩
  · rintro ⟨s, ⟨b, b', k, hb, hb', hk, rfl⟩, rfl, hkey⟩
    exact ⟨b, b', k, hb, hb', by simp, isVersionToken_iff.2 hk, continuesKey_eq_false_iff.2 hkey⟩

theorem dropVersionArgument?_eq_none_iff {t : Text} :
    dropVersionArgument? t = none ↔
      ∀ s u, IsVersionSegment s → t = s ++ u → IsKeyMark u := by
  constructor
  · intro h s u hs ht
    by_contra hkey
    have hsome := dropVersionArgument?_eq_some_iff_segment.2 ⟨s, hs, ht, hkey⟩
    rw [h] at hsome
    cases hsome
  · intro h
    refine Option.eq_none_iff_forall_ne_some.2 fun u hu => ?_
    obtain ⟨s, hs, ht, hkey⟩ := dropVersionArgument?_eq_some_iff_segment.1 hu
    exact hkey (h s u hs ht)

/-! ## Runs -/

/-- Segments one after the other in front of `r`, and no option's mark behind any of them. -/
def IsVersionRun : List Text → Text → Prop
  | [], _ => True
  | s :: segments, r =>
    IsVersionSegment s ∧ ¬ IsKeyMark (segments.flatten ++ r) ∧ IsVersionRun segments r

/-- What is dropped is a run. -/
theorem exists_isVersionRun (t : Text) : ∃ segments,
    t = segments.flatten ++ dropVersionArguments t ∧
      IsVersionRun segments (dropVersionArguments t) := by
  fun_induction dropVersionArguments t with
  | case1 t r h ih =>
    obtain ⟨s, hs, rfl, hkey⟩ := dropVersionArgument?_eq_some_iff_segment.1 h
    obtain ⟨segments, hr, hrun⟩ := ih
    refine ⟨s :: segments, ?_, hs, hr ▸ hkey, hrun⟩
    rw [List.flatten_cons, List.append_assoc, ← hr]
  | case2 t h => exact ⟨[], rfl, trivial⟩

/-- Of two runs at the start of one text the one behind which no argument follows is the longer
one. The segment and the text behind it are determined by the text, so both runs agree step by
step. -/
theorem IsVersionRun.prefix_of_eq {as bs : List Text} {r u : Text} (has : IsVersionRun as r)
    (hbs : IsVersionRun bs u) (heq : as.flatten ++ r = bs.flatten ++ u)
    (hu : dropVersionArgument? u = none) : as <+: bs := by
  induction as generalizing bs with
  | nil => exact List.nil_prefix
  | cons s as ih =>
    obtain ⟨hs, hkey, has⟩ := has
    rw [List.flatten_cons, List.append_assoc] at heq
    have hdrop := dropVersionArgument?_eq_some_iff_segment.2 ⟨s, hs, rfl, hkey⟩
    cases bs with
    | nil =>
      rw [heq, List.flatten_nil, List.nil_append, hu] at hdrop
      cases hdrop
    | cons w bs =>
      obtain ⟨hw, hkey', hbs⟩ := hbs
      rw [List.flatten_cons, List.append_assoc] at heq
      have hdrop' := dropVersionArgument?_eq_some_iff_segment.2 ⟨w, hw, rfl, hkey'⟩
      rw [← heq, hdrop] at hdrop'
      have hrest := Option.some.inj hdrop'
      rw [← hrest, List.append_cancel_right_eq] at heq
      rw [heq]
      exact (List.prefix_cons_inj w).2 (ih has hbs hrest)

theorem IsVersionRun.segments {segments : List Text} {r : Text} (h : IsVersionRun segments r) :
    ∀ s ∈ segments, IsVersionSegment s := by
  induction segments with
  | nil => exact List.forall_mem_nil _
  | cons s segments ih => exact List.forall_mem_cons.2 ⟨h.1, ih h.2.2⟩

theorem IsVersionRun.isUncommented {segments : List Text} {r : Text}
    (h : IsVersionRun segments r) : IsUncommented segments.flatten := by
  induction segments with
  | nil => exact fun u => rfl
  | cons s segments ih =>
    obtain ⟨hs, -, h⟩ := h
    exact hs.isFinished.uncommented.append (ih h)

theorem hasVersionArgument_iff {t dropped : Text} (ht : t = dropped ++ dropVersionArguments t) :
    hasVersionArgument t = true ↔ dropped ≠ [] := by
  refine ⟨?_, fun h => ?_⟩
  · rintro h rfl
    rw [ht, List.nil_append, hasVersionArgument_dropVersionArguments] at h
    cases h
  · by_contra hnot
    rw [dropVersionArguments_of_hasVersionArgument (Bool.not_eq_true _ ▸ hnot),
      List.self_eq_append_left] at ht
    exact h ht

/-! ## What edits carry over -/

/-- The longest run of version arguments at the start of a text is what is dropped from it. What is
left starts with no further one, so nothing more is dropped from it, and it holds any comment of the
text. Both edits of a declaration write what is left behind its name as it stands. -/
theorem dropVersionArguments_run (t : Text) : ∃ segments,
    t = segments.flatten ++ dropVersionArguments t ∧
      IsVersionRun segments (dropVersionArguments t) ∧
      (∀ s u, IsVersionSegment s → dropVersionArguments t = s ++ u → IsKeyMark u) ∧
      (∀ segments' r, t = segments'.flatten ++ r → IsVersionRun segments' r →
        segments' <+: segments) ∧
      (hasVersionArgument t = true ↔ segments.flatten ≠ []) ∧
      dropVersionArguments (dropVersionArguments t) = dropVersionArguments t ∧
      hasVersionArgument (dropVersionArguments t) = false ∧
      stripComment t = segments.flatten ++ stripComment (dropVersionArguments t) ∧
      commentStart? t =
        (commentStart? (dropVersionArguments t)).map (Text.size segments.flatten + ·) ∧
      ∀ kind text name i line s, DeclaredOn kind text name i line s → s.rest = t →
        line = s.head ++ segments.flatten ++ dropVersionArguments t ∧
          (∀ constraint style, pin text kind name constraint style =
            .ok (.ofLine text i (s.headIn (style.quote.getD s.quote) ++ ", ".toList ++
              (style.quote.getD s.quote).wrap constraint ++ dropVersionArguments t))) ∧
          unpin text kind name = .ok (if segments.flatten = [] then none
            else some (.ofLine text i (s.head ++ dropVersionArguments t))) := by
  obtain ⟨segments, ht, hrun⟩ := exists_isVersionRun t
  have hnone := dropVersionArgument?_dropVersionArguments t
  have hhas := hasVersionArgument_iff ht
  refine ⟨segments, ht, hrun, dropVersionArgument?_eq_none_iff.1 hnone,
    fun segments' r ht' hrun' => hrun'.prefix_of_eq hrun (ht'.symm.trans ht) hnone, hhas,
    dropVersionArguments_dropVersionArguments t, hasVersionArgument_dropVersionArguments t,
    ?_, ?_, ?_⟩
  · conv_lhs => rw [ht]
    exact hrun.isUncommented _
  · conv_lhs => rw [ht]
    exact hrun.isUncommented.commentStart?_append _
  · rintro kind text name i line s hs rfl
    refine ⟨?_, fun constraint style => pin_eq_ok_iff.2 ⟨i, line, s, hs, rfl⟩,
      unpin_eq_ok_iff.2 ⟨i, line, s, hs, ?_⟩⟩
    · rw [← hs.isOn.head_append_rest, List.append_assoc, ← ht]
    · by_cases hnil : segments.flatten = []
      · rw [if_pos hnil, if_neg fun h => hhas.1 h hnil]
      · rw [if_neg hnil, if_pos (hhas.2 hnil)]
        rfl

/-- A string and a list are dropped, and an option and a comment are carried over. -/
theorem dropVersionArguments_run_list :
    ∃ r, pin "gem 'x', '1.0', ['>= 1', \"< 2\"], git: 'u' # web\n".toList .gemfile "x".toList
        "3.0".toList ⟨none, .double, []⟩ = .ok r ∧
      r.text = "gem 'x', '3.0', git: 'u' # web\n".toList ∧
      commentStart? ", '1.0', ['>= 1', \"< 2\"], git: 'u' # web".toList =
        (commentStart? ", git: 'u' # web".toList).map (24 + ·) := by
  have hspace : Text.IsBlanks [' '] := List.forall_mem_singleton.2 (by decide)
  have hkey : ∀ u, ¬ IsKeyMark (',' :: u) := fun u => continuesKey_eq_false_iff.1 rfl
  have hstring : IsVersionSegment ", '1.0'".toList :=
    ⟨[], [' '], _, List.forall_mem_nil _, hspace, .inl (isLiteral_wrap .single "1.0".toList), rfl⟩
  have hlist : IsVersionSegment ", ['>= 1', \"< 2\"]".toList := by
    refine ⟨[], [' '], _, List.forall_mem_nil _, hspace,
      .inr ⟨"'>= 1', \"< 2\"".toList, rfl, by decide, ?_⟩, rfl⟩
    rw [show splitArguments "'>= 1', \"< 2\"".toList =
      [QuoteStyle.wrap .single ">= 1".toList, QuoteStyle.wrap .double "< 2".toList] by decide]
    simp only [List.mem_cons, List.not_mem_nil, or_false, forall_eq_or_imp, forall_eq,
      isLiteral_wrap, and_self]
  have hdrop : dropVersionArguments ", '1.0', ['>= 1', \"< 2\"], git: 'u' # web".toList =
      ", git: 'u' # web".toList := by
    have hfirst : dropVersionArgument? ", '1.0', ['>= 1', \"< 2\"], git: 'u' # web".toList =
        some ", ['>= 1', \"< 2\"], git: 'u' # web".toList :=
      dropVersionArgument?_eq_some_iff_segment.2 ⟨_, hstring, rfl, hkey _⟩
    have hsecond : dropVersionArgument? ", ['>= 1', \"< 2\"], git: 'u' # web".toList =
        some ", git: 'u' # web".toList :=
      dropVersionArgument?_eq_some_iff_segment.2 ⟨_, hlist, rfl, hkey _⟩
    rw [dropVersionArguments_of_some hfirst, dropVersionArguments_of_some hsecond,
      dropVersionArguments_of_none (by decide)]
  obtain ⟨segments, ht, -, -, -, -, -, -, -, hcomment, hedits⟩ :=
    dropVersionArguments_run ", '1.0', ['>= 1', \"< 2\"], git: 'u' # web".toList
  rw [hdrop] at ht hcomment hedits
  obtain ⟨-, hpin, -⟩ := hedits .gemfile
    "gem 'x', '1.0', ['>= 1', \"< 2\"], git: 'u' # web\n".toList "x".toList 0 _
    ⟨[], "gem ".toList, none, .single, "x".toList, _, false, false⟩
    (declarationToEdit_eq_ok_iff.1 (by rfl)) rfl
  refine ⟨_, hpin "3.0".toList ⟨none, .double, []⟩, by decide, ?_⟩
  have hsize := congrArg Text.size ht
  rw [Text.size_append] at hsize
  rw [hcomment, show Text.size segments.flatten = 24 from Nat.add_right_cancel hsize.symm]

end GemDeps
