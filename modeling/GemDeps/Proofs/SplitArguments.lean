import GemDeps.Proofs.Requirement
import GemDeps.Spelling.Statement

/-!
# Splitting and joining arguments

The arguments of a text are described without a scan of the whole of it (`IsSplit`): trimmed pieces
in their order, each but the last taken from plain code to plain code, with blanks and a comma
behind it, and nothing but commas and blanks between them. Every text is split so, and in no other
way (`splitArguments_eq_iff`), whatever brackets and quotes it leaves open. So arguments that are
joined are split into the same arguments again (`splitArguments_pieces`).
-/

namespace GemDeps

/-! ## The scan for commas behind a text -/

/-- The number of open brackets behind a text, read in zone `z` with `d` open ones. -/
def openBrackets (z : Zone) (d : Nat) : Text → Nat
  | [] => d
  | c :: t => openBrackets (z.next c) (bracketDepth z d c) t

theorem openBrackets_append (z : Zone) (d : Nat) (s t : Text) :
    openBrackets z d (s ++ t) = openBrackets (z.run s) (openBrackets z d s) t := by
  induction s generalizing z d with
  | nil => rfl
  | cons c s ih => exact ih _ _

theorem Zone.run_append (z : Zone) (s t : Text) : z.run (s ++ t) = (z.run s).run t :=
  List.foldl_append

theorem eq_of_consFirst_eq {c : Char} {p : Text} {ps qs : List Text} (hps : ps ≠ [])
    (h : consFirst c ps = (c :: p) :: qs) : ps = p :: qs := by
  obtain ⟨r, rs, rfl⟩ := List.exists_cons_of_ne_nil hps
  simpa [consFirst] using h

/-- A text that is not cut leaves the scan in the zone and with the brackets in which it ends. -/
theorem splitCommas_append_of_eq {z : Zone} {d : Nat} {a : Text} (ha : splitCommas z d a = [a])
    (t : Text) :
    splitCommas z d (a ++ t) =
      a.foldr consFirst (splitCommas (z.run a) (openBrackets z d a) t) := by
  induction a generalizing z d with
  | nil => rfl
  | cons c a ih =>
    rw [splitCommas] at ha
    rw [List.cons_append, splitCommas]
    by_cases hcut : (z.isCode && c == ',' && d == 0) = true
    · rw [if_pos hcut] at ha
      cases ha
    · rw [if_neg hcut] at ha ⊢
      rw [ih (eq_of_consFirst_eq (splitCommas_ne_nil _ _ a) ha)]
      rfl

theorem splitCommas_of_append {z : Zone} {d : Nat} {a t : Text}
    (h : splitCommas z d (a ++ t) = [a ++ t]) : splitCommas z d a = [a] := by
  induction a generalizing z d with
  | nil => rfl
  | cons c a ih =>
    rw [List.cons_append, splitCommas] at h
    rw [splitCommas]
    by_cases hcut : (z.isCode && c == ',' && d == 0) = true
    · rw [if_pos hcut] at h
      cases h
    · rw [if_neg hcut] at h ⊢
      rw [ih (eq_of_consFirst_eq (splitCommas_ne_nil _ _ (a ++ t)) h)]
      rfl

theorem splitCommas_of_notMem {b : Text} (hb : ',' ∉ b) (z : Zone) (d : Nat) :
    splitCommas z d b = [b] := by
  induction b generalizing z d with
  | nil => rfl
  | cons c b ih =>
    rw [List.mem_cons, not_or] at hb
    rw [splitCommas, if_neg (by simp [Ne.symm hb.1]), ih hb.2]
    rfl

/-- The first comma that cuts stands in plain code outside brackets, and behind it the scan goes on
as it started. -/
theorem splitCommas_cases (z : Zone) (d : Nat) (t : Text) :
    splitCommas z d t = [t] ∨ ∃ p u, t = p ++ ',' :: u ∧ splitCommas z d p = [p] ∧
      z.run p = .code ∧ openBrackets z d p = 0 := by
  induction t generalizing z d with
  | nil => exact .inl rfl
  | cons c t ih =>
    by_cases hcut : (z.isCode && c == ',' && d == 0) = true
    · obtain ⟨⟨hz, rfl⟩, rfl⟩ : (z.isCode = true ∧ c = ',') ∧ d = 0 := by simpa using hcut
      have hcode : z = .code := by
        by_contra hne
        rw [Zone.isCode_eq_false hne] at hz
        cases hz
      exact .inr ⟨[], t, rfl, rfl, hcode, rfl⟩
    · have hcons : ∀ {u}, splitCommas (z.next c) (bracketDepth z d c) u = [u] →
          splitCommas z d (c :: u) = [c :: u] := by
        intro u hu
        rw [splitCommas, if_neg hcut, hu]
        rfl
      rcases ih (z.next c) (bracketDepth z d c) with ht | ⟨p, u, rfl, hp, hzone, hdepth⟩
      · exact .inl (hcons ht)
      · exact .inr ⟨c :: p, u, rfl, hcons hp, hzone, hdepth⟩

/-! ## Blanks -/

theorem comma_notMem_of_isBlanks {b : Text} (hb : Text.IsBlanks b) : ',' ∉ b := fun h =>
  absurd (hb _ h) (by decide)

/-- Blanks neither enter nor leave plain code. -/
theorem Zone.run_blanks_eq_code_iff {b : Text} (hb : Text.IsBlanks b) {z : Zone} :
    z.run b = .code ↔ z = .code := by
  induction b generalizing z with
  | nil => rfl
  | cons c b ih =>
    obtain ⟨hc, hb⟩ := List.forall_mem_cons.1 hb
    have hne : ∀ d : Char, Text.isBlank d = false → c ≠ d := by
      rintro d hd rfl
      rw [hc] at hd
      cases hd
    have hnext : z.next c = .code ↔ z = .code := by
      cases z with
      | code => exact iff_of_true (IsFlatChar.of_eq_true (isFlatChar_of_isBlank hc)).next rfl
      | literal q =>
        rw [Zone.next, if_neg (hne _ (by decide)), if_neg (hne _ (Text.isBlank_mark q))]
      | escape q => exact iff_of_false (by simp [Zone.next]) (by simp)
    exact (ih hb).trans hnext

theorem openBrackets_blanks {b : Text} (hb : Text.IsBlanks b) (z : Zone) (d : Nat) :
    openBrackets z d b = d := by
  induction b generalizing z d with
  | nil => rfl
  | cons c b ih =>
    obtain ⟨hc, hb⟩ := List.forall_mem_cons.1 hb
    have hdepth : bracketDepth z d c = d := by
      cases z with
      | code => exact (IsFlatChar.of_eq_true (isFlatChar_of_isBlank hc)).depth d
      | literal q => rfl
      | escape q => rfl
    rw [openBrackets, hdepth, ih hb]

/-! ## Pieces -/

/-- A text that is one argument when it stands alone. It may leave quotes and brackets open. -/
structure IsUncut (p : Text) : Prop where
  ne_nil : p ≠ []
  trim_eq : Text.trim p = p
  /-- No comma is seen outside quotes and brackets. -/
  uncut : splitCommas .code 0 p = [p]

/-- A text that is one argument among others: the scan comes out of it as it came in, outside quotes
with no bracket open. -/
structure IsPiece (p : Text) : Prop extends IsUncut p where
  unquoted : Zone.run .code p = .code
  balanced : openBrackets .code 0 p = 0

theorem isPiece_iff {p : Text} : IsPiece p ↔ (p ≠ [] ∧ Text.trim p = p ∧
    splitCommas .code 0 p = [p]) ∧ Zone.run .code p = .code ∧ openBrackets .code 0 p = 0 :=
  ⟨fun ⟨⟨h₁, h₂, h₃⟩, h₄, h₅⟩ => ⟨⟨h₁, h₂, h₃⟩, h₄, h₅⟩,
    fun ⟨⟨h₁, h₂, h₃⟩, h₄, h₅⟩ => ⟨⟨h₁, h₂, h₃⟩, h₄, h₅⟩⟩

instance (p : Text) : Decidable (IsPiece p) := decidable_of_iff' _ isPiece_iff

theorem IsUncut.trim_append {p : Text} (hp : IsUncut p) {b : Text} (hb : Text.IsBlanks b) :
    Text.trim (p ++ b) = p :=
  (Text.trim_append (List.forall_mem_nil _) hb p).trans hp.trim_eq

theorem IsUncut.not_isBlanks_append {p : Text} (hp : IsUncut p) (t : Text) :
    ¬ Text.IsBlanks (p ++ t) := by
  intro h
  obtain ⟨hblank, -⟩ := List.forall_mem_append.1 h
  have hnil := Text.trim_eq_nil_iff.2 hblank
  rw [hp.trim_eq] at hnil
  exact hp.ne_nil hnil

/-- Alone with blanks behind it, such a text is the only argument. -/
theorem IsUncut.splitArguments_blanks {p b : Text} (hp : IsUncut p) (hb : Text.IsBlanks b) :
    splitArguments (p ++ b) = [p] := by
  rw [splitArguments_eq, splitCommas_append_of_eq hp.uncut,
    splitCommas_of_notMem (comma_notMem_of_isBlanks hb), foldr_consFirst,
    keptArguments_cons (hp.not_isBlanks_append b), hp.trim_append hb]
  rfl

/-- With a comma behind it, a piece is the first argument, and the others are those behind the
comma. -/
theorem IsPiece.splitArguments_comma {p b : Text} (hp : IsPiece p) (hb : Text.IsBlanks b)
    (t : Text) : splitArguments (p ++ (b ++ ',' :: t)) = p :: splitArguments t := by
  rw [splitArguments_eq, splitCommas_append_of_eq hp.uncut, hp.unquoted, hp.balanced,
    splitCommas_comma hb, foldr_consFirst, keptArguments_cons (hp.not_isBlanks_append b),
    hp.trim_append hb]
  rfl

theorem isUncut_trim {p : Text} (hne : ¬ Text.IsBlanks p) (hp : splitCommas .code 0 p = [p]) :
    IsUncut p.trim := by
  obtain ⟨b, b', hb, -, hsplit⟩ := Text.exists_blanks_trim p
  refine ⟨mt Text.trim_eq_nil_iff.1 hne, Text.trim_trim p, splitCommas_of_append (t := b') ?_⟩
  -- In front of the blanks at its start nothing is cut either.
  obtain ⟨r, rs, hrs⟩ := List.exists_cons_of_ne_nil
    (splitCommas_ne_nil .code 0 (p.trim ++ b'))
  conv at hp => rw [hsplit]
  rw [splitCommas_blanks hb, hrs, foldr_consFirst, List.cons.injEq,
    List.append_cancel_left_eq] at hp
  rw [hrs, hp.1, hp.2]

theorem isPiece_trim {p : Text} (hne : ¬ Text.IsBlanks p) (hp : splitCommas .code 0 p = [p])
    (hzone : Zone.run .code p = .code) (hdepth : openBrackets .code 0 p = 0) :
    IsPiece p.trim := by
  obtain ⟨b, b', hb, hb', hsplit⟩ := Text.exists_blanks_trim p
  have hstart := (Zone.run_blanks_eq_code_iff hb).2 (Eq.refl Zone.code)
  refine ⟨isUncut_trim hne hp, ?_, ?_⟩
  · rwa [hsplit, Zone.run_append, hstart, Zone.run_append, Zone.run_blanks_eq_code_iff hb'] at hzone
  · rwa [hsplit, openBrackets_append, hstart, openBrackets_blanks hb, openBrackets_append,
      openBrackets_blanks hb'] at hdepth

/-! ## Pieces in a text -/

/-- Only commas and blanks. -/
def IsSpacing (g : Text) : Prop := ∀ c ∈ g, c = ',' ∨ Text.isBlank c = true

theorem IsSpacing.append {g g' : Text} (hg : IsSpacing g) (hg' : IsSpacing g') :
    IsSpacing (g ++ g') :=
  List.forall_mem_append.2 ⟨hg, hg'⟩

theorem isSpacing_of_isBlanks {b : Text} (hb : Text.IsBlanks b) : IsSpacing b :=
  fun c hc => .inr (hb c hc)

/-- The pieces stand in the text in this order and without overlap, only commas and blanks stand
outside them, and behind each one stand blanks and then a comma or the end. The last one may leave
quotes and brackets open. -/
inductive IsSplit : List Text → Text → Prop
  | spacing {g : Text} (hg : IsSpacing g) : IsSplit [] g
  | last {g p b : Text} (hg : IsSpacing g) (hp : IsUncut p) (hb : Text.IsBlanks b) :
      IsSplit [p] (g ++ (p ++ b))
  | cons {g p b t : Text} {ps : List Text} (hg : IsSpacing g) (hp : IsPiece p)
      (hb : Text.IsBlanks b) (ht : IsSplit ps t) : IsSplit (p :: ps) (g ++ (p ++ (b ++ ',' :: t)))

theorem splitArguments_spacing {g : Text} (hg : IsSpacing g) (t : Text) :
    splitArguments (g ++ t) = splitArguments t := by
  induction g with
  | nil => rfl
  | cons c g ih =>
    obtain ⟨hc, hg⟩ := List.forall_mem_cons.1 hg
    rw [← ih hg, List.cons_append, splitArguments_eq, splitArguments_eq]
    rcases hc with rfl | hc
    · exact keptArguments_cons_of_isBlanks (List.forall_mem_nil _) _
    · obtain ⟨p, ps, hps⟩ := List.exists_cons_of_ne_nil (splitCommas_ne_nil .code 0 (g ++ t))
      have hblank : Text.IsBlanks [c] := List.forall_mem_singleton.2 hc
      have htrim : Text.trim (c :: p) = Text.trim p := Text.trim_blanks_append hblank p
      rw [← List.singleton_append, splitCommas_blanks hblank, hps, foldr_consFirst,
        keptArguments, keptArguments, List.map_cons, List.map_cons, List.singleton_append, htrim]

theorem splitArguments_blanks {b : Text} (hb : Text.IsBlanks b) (t : Text) :
    splitArguments (b ++ t) = splitArguments t :=
  splitArguments_spacing (isSpacing_of_isBlanks hb) t

namespace IsSplit

variable {ps : List Text} {t : Text}

theorem isUncut (h : IsSplit ps t) : ∀ p ∈ ps, IsUncut p := by
  induction h with
  | spacing _ => exact List.forall_mem_nil _
  | last _ hp _ => exact List.forall_mem_singleton.2 hp
  | cons _ hp _ _ ih => exact List.forall_mem_cons.2 ⟨hp.toIsUncut, ih⟩

/-- Commas and blanks in front change nothing. -/
theorem spacing_append {g : Text} (hg : IsSpacing g) (h : IsSplit ps t) : IsSplit ps (g ++ t) := by
  cases h with
  | spacing hg' => exact .spacing (hg.append hg')
  | last hg' hp hb =>
    rw [← List.append_assoc]
    exact .last (hg.append hg') hp hb
  | cons hg' hp hb ht =>
    rw [← List.append_assoc]
    exact .cons (hg.append hg') hp hb ht

/-- The pieces are the arguments. -/
theorem splitArguments_eq (h : IsSplit ps t) : splitArguments t = ps := by
  induction h with
  | spacing hg =>
    have hempty := splitArguments_spacing hg []
    rwa [List.append_nil] at hempty
  | last hg hp hb => rw [splitArguments_spacing hg, hp.splitArguments_blanks hb]
  | cons hg hp hb _ ih => rw [splitArguments_spacing hg, hp.splitArguments_comma hb, ih]

end IsSplit

/-- Every text is split into its arguments. The text behind the first comma that cuts is shorter. -/
theorem isSplit_splitArguments (t : Text) : IsSplit (splitArguments t) t := by
  rcases splitCommas_cases .code 0 t with ht | ⟨p, u, ht, hp, hzone, hdepth⟩
  · by_cases hblank : Text.IsBlanks t
    · rw [(IsSplit.spacing (isSpacing_of_isBlanks hblank)).splitArguments_eq]
      exact .spacing (isSpacing_of_isBlanks hblank)
    · obtain ⟨b, b', hb, hb', hsplit⟩ := Text.exists_blanks_trim t
      have hlast := IsSplit.last (isSpacing_of_isBlanks hb) (isUncut_trim hblank ht) hb'
      rw [← hsplit] at hlast
      rwa [hlast.splitArguments_eq]
  · have hrest := isSplit_splitArguments u
    by_cases hblank : Text.IsBlanks p
    · have hcomma : IsSpacing (p ++ [',']) :=
        (isSpacing_of_isBlanks hblank).append (List.forall_mem_singleton.2 (.inl rfl))
      rw [ht, List.append_cons, splitArguments_spacing hcomma]
      exact hrest.spacing_append hcomma
    · obtain ⟨b, b', hb, hb', hsplit⟩ := Text.exists_blanks_trim p
      have hcons := IsSplit.cons (isSpacing_of_isBlanks hb) (isPiece_trim hblank hp hzone hdepth)
        hb' hrest
      have hline : t = b ++ (p.trim ++ (b' ++ ',' :: u)) := by
        conv => lhs; rw [ht, hsplit]
        simp only [List.append_assoc]
      rw [hline, hcons.splitArguments_eq]
      exact hcons
termination_by t.length
decreasing_by
  rw [ht, List.length_append, List.length_cons]
  omega

/-- A text has exactly one split. -/
theorem splitArguments_eq_iff {ps : List Text} {t : Text} :
    splitArguments t = ps ↔ IsSplit ps t := by
  constructor
  · rintro rfl
    exact isSplit_splitArguments t
  · exact IsSplit.splitArguments_eq

/-! ## Joined arguments -/

theorem commaSeparated_singleton (p : Text) : commaSeparated [p] = p := Text.join_singleton _ p

theorem commaSeparated_cons_cons (p q : Text) (ps : List Text) :
    commaSeparated (p :: q :: ps) = p ++ (", ".toList ++ commaSeparated (q :: ps)) :=
  Text.join_cons_cons ..

theorem isBlanks_space : Text.IsBlanks [' '] := List.forall_mem_singleton.2 (by decide)

theorem IsUncut.isSplit_singleton {p : Text} (hp : IsUncut p) :
    IsSplit [p] (commaSeparated [p]) := by
  have hlast := IsSplit.last (List.forall_mem_nil _) hp (List.forall_mem_nil _)
  rw [commaSeparated_singleton]
  rwa [List.nil_append, List.append_nil] at hlast

/-- A piece joined with others. -/
theorem IsPiece.isSplit_cons {p : Text} {ps : List Text} (hp : IsPiece p)
    (h : IsSplit ps (commaSeparated ps)) : IsSplit (p :: ps) (commaSeparated (p :: ps)) := by
  cases ps with
  | nil => exact hp.isSplit_singleton
  | cons q ps =>
    rw [commaSeparated_cons_cons]
    exact .cons (List.forall_mem_nil _) hp (List.forall_mem_nil _)
      (h.spacing_append (isSpacing_of_isBlanks isBlanks_space))

theorem isSplit_commaSeparated {ps : List Text} (h : ∀ p ∈ ps, IsPiece p) :
    IsSplit ps (commaSeparated ps) := by
  induction ps with
  | nil => exact .spacing (List.forall_mem_nil _)
  | cons p ps ih =>
    obtain ⟨hp, hps⟩ := List.forall_mem_cons.1 h
    exact hp.isSplit_cons (ih hps)

/-- What was split is joined to a text with the same split. -/
theorem IsSplit.join {ps : List Text} {t : Text} (h : IsSplit ps t) :
    IsSplit ps (commaSeparated ps) := by
  induction h with
  | spacing _ => exact .spacing (List.forall_mem_nil _)
  | last _ hp _ => exact hp.isSplit_singleton
  | cons _ hp _ _ ih => exact hp.isSplit_cons ih

/-- Pieces that are joined are split into the same pieces. Of any text the arguments are trimmed and
not empty, and they stand in it in order, with only commas and blanks outside them; no other list of
pieces stands in it so. Joined with commas they make a text with the same arguments. -/
theorem splitArguments_pieces :
    (∀ ps, (∀ p ∈ ps, IsPiece p) → splitArguments (commaSeparated ps) = ps) ∧
      ∀ t, (∀ p ∈ splitArguments t, p ≠ [] ∧ Text.trim p = p) ∧
        (∀ ps, splitArguments t = ps ↔ IsSplit ps t) ∧
        splitArguments (commaSeparated (splitArguments t)) = splitArguments t := by
  refine ⟨fun ps h => (isSplit_commaSeparated h).splitArguments_eq, fun t => ⟨?_, ?_, ?_⟩⟩
  · intro p hp
    have huncut := (isSplit_splitArguments t).isUncut p hp
    exact ⟨huncut.ne_nil, huncut.trim_eq⟩
  · exact fun ps => splitArguments_eq_iff
  · exact (isSplit_splitArguments t).join.splitArguments_eq

/-- A list, a quoted comma and a call are split again. -/
theorem splitArguments_pieces_nested :
    (∀ p ∈ ["['> 1', '< 3)']".toList, "\"a, \\\", b\"".toList, "f(x, {y => 1})".toList],
        IsPiece p) ∧
      splitArguments "['> 1', '< 3)'], \"a, \\\", b\", f(x, {y => 1})".toList =
        ["['> 1', '< 3)']".toList, "\"a, \\\", b\"".toList, "f(x, {y => 1})".toList] := by
  have h : ∀ p ∈ ["['> 1', '< 3)']".toList, "\"a, \\\", b\"".toList, "f(x, {y => 1})".toList],
      IsPiece p := by decide
  exact ⟨h, splitArguments_pieces.1 _ h⟩

end GemDeps
