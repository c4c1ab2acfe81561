import GemDeps.Proofs.PinnedDocument

/-!
# Calls with and without parentheses

A call reads the same with parentheses around its arguments and without, whatever stands behind the
closing one (`read_parenthesizedCall`). The two scans that see what stands behind the arguments, for
a comment and for the closing parenthesis, take the arguments as they stand and go on behind them as
they started (`IsEnclosed`); then the parenthesis is the next character, and it closes nothing that
the arguments opened.
-/

namespace GemDeps

/-! ## Scans behind a text -/

/-- A text without a comment leaves the scan for one in the zone that it ends in. -/
theorem splitComment_append_of_eq {z : Zone} {a : Text} (ha : (splitComment z a).1 = a)
    (t : Text) : (splitComment z (a ++ t)).1 = a ++ (splitComment (z.run a) t).1 := by
  induction a generalizing z with
  | nil => rfl
  | cons c a ih =>
    rw [splitComment] at ha
    rw [List.cons_append, splitComment]
    by_cases hhash : (z.isCode && c == '#') = true
    · rw [if_pos hhash] at ha
      cases ha
    · rw [if_neg hhash] at ha ⊢
      exact congrArg (c :: ·) (ih (List.cons.inj ha).2)

/-- A text without a comment in which no parenthesis closes leaves the scan for one with the
brackets that it leaves open. -/
theorem beforeClosingParen?_append_of_eq_none {z : Zone} {d : Nat} {a : Text}
    (hcode : (splitComment z a).1 = a) (ha : beforeClosingParen? z d a = none) (t : Text) :
    beforeClosingParen? z d (a ++ t) =
      (beforeClosingParen? (z.run a) (openBrackets z d a) t).map (a ++ ·) := by
  induction a generalizing z d with
  | nil => exact Option.map_id'.symm
  | cons c a ih =>
    rw [splitComment] at hcode
    rw [beforeClosingParen?] at ha
    rw [List.cons_append, beforeClosingParen?]
    by_cases hhash : (z.isCode && c == '#') = true
    · rw [if_pos hhash] at hcode
      cases hcode
    by_cases hparen : (z.isCode && c == ')' && d == 0) = true
    · rw [if_pos hparen] at ha
      cases ha
    rw [if_neg hhash] at hcode
    rw [if_neg hparen, if_neg hhash] at ha ⊢
    rw [ih (List.cons.inj hcode).2 (Option.map_eq_none_iff.1 ha), Option.map_map]
    rfl

/-! ## Enclosed arguments -/

/-- Arguments that can stand between parentheses: they hold no comment, no parenthesis in them
closes the one in front of them, and they end outside quotes with no bracket open. -/
structure IsEnclosed (a : Text) : Prop where
  uncommented : stripComment a = a
  unclosed : beforeClosingParen? .code 0 a = none
  unquoted : Zone.run .code a = .code
  balanced : openBrackets .code 0 a = 0

theorem isEnclosed_iff {a : Text} : IsEnclosed a ↔ stripComment a = a ∧
    beforeClosingParen? .code 0 a = none ∧ Zone.run .code a = .code ∧
      openBrackets .code 0 a = 0 :=
  ⟨fun ⟨h₁, h₂, h₃, h₄⟩ => ⟨h₁, h₂, h₃, h₄⟩, fun ⟨h₁, h₂, h₃, h₄⟩ => ⟨h₁, h₂, h₃, h₄⟩⟩

instance (a : Text) : Decidable (IsEnclosed a) := decidable_of_iff' _ isEnclosed_iff

namespace IsEnclosed

variable {a : Text} (ha : IsEnclosed a)

include ha

theorem isUncommented : IsUncommented a := by
  intro t
  have happend := splitComment_append_of_eq ha.uncommented t
  rwa [ha.unquoted] at happend

theorem beforeClosingParen?_append (t : Text) :
    beforeClosingParen? .code 0 (a ++ t) = (beforeClosingParen? .code 0 t).map (a ++ ·) := by
  have happend := beforeClosingParen?_append_of_eq_none ha.uncommented ha.unclosed t
  rwa [ha.unquoted, ha.balanced] at happend

/-- Arguments behind a comma are all of the text of arguments when what stands behind them adds
nothing: both scans take them as they stand. -/
theorem argumentText_eq {s : Statement} {r : Text} (hrest : s.rest = ", ".toList ++ a ++ r)
    (hr : Statement.argumentText { s with rest := r } = []) :
    s.argumentText = ", ".toList ++ a := by
  have hcomment : IsUncommented (", ".toList ++ a) :=
    isFlat_separator.isUncommented.append ha.isUncommented
  have hparen : ∀ t, beforeClosingParen? .code 0 (", ".toList ++ a ++ t) =
      (beforeClosingParen? .code 0 t).map (", ".toList ++ a ++ ·) := by
    intro t
    rw [List.append_assoc, beforeClosingParen?_flat isFlat_separator,
      ha.beforeClosingParen?_append, Option.map_map]
    simp only [Function.comp_def, List.append_assoc]
  have happend := Statement.argumentText_append hcomment hparen { s with rest := r }
  rw [hr, List.append_nil] at happend
  dsimp only at happend
  rwa [← hrest] at happend

end IsEnclosed

/-! ## The two spellings -/

/-- The keywords that declare a dependency in a manifest of a kind. -/
def IsKeyword (kind : Kind) (keyword : Text) : Prop :=
  ∃ receiver development, IsCall kind keyword receiver development

/-- A call with parentheses around a name and arguments, and any text behind them. -/
def parenthesizedCall (keyword : Text) (q : QuoteStyle) (name a trailing : Text) : Text :=
  keyword ++ '(' :: q.mark :: (name ++ q.mark :: (", ".toList ++ a ++ ')' :: trailing))

/-- A call with a name and arguments behind a space. -/
def bareCall (keyword : Text) (q : QuoteStyle) (name a : Text) : Text :=
  keyword ++ ' ' :: q.mark :: (name ++ q.mark :: (", ".toList ++ a))

theorem ArgumentOpening.read_paren (q : QuoteStyle) (w : Text) :
    read ('(' :: q.mark :: w) = ⟨['('], true, q.mark :: w⟩ := by
  cases q <;> rfl

/-- Statements of one name with the same arguments make the same declaration. -/
theorem IsReading.eq_of_argumentText {read : Statement → Declaration} (h : IsReading read)
    {s s' : Statement} (hname : s'.name = s.name) (harguments : s'.argumentText = s.argumentText)
    (hdevelopment : s'.development = s.development) : read s' = read s := by
  have heq : s'.arguments = s.arguments := Statement.arguments_congr harguments
  have hoptions : s'.options = s.options := by
    unfold Statement.options
    rw [heq]
  have hrequirement : s'.requirement = s.requirement := by
    unfold Statement.requirement
    rw [heq]
  rw [h.congr s s' hname hoptions hdevelopment, hrequirement, ← h.congr s s rfl rfl rfl]

section Calls

variable {kind : Kind} {keyword indent name a : Text} {q : QuoteStyle}
  (hkeyword : IsKeyword kind keyword) (hindent : Text.IsBlanks indent)
  (hname : isGemName name = true) (ha : IsEnclosed a)

include hkeyword hindent hname ha

/-- Both spellings are statements, with the same name and the same text of arguments. -/
theorem exists_read?_calls (trailing : Text) :
    ∃ s s', Statement.read? kind (indent ++ parenthesizedCall keyword q name a trailing) =
        some s ∧
      Statement.read? kind (indent ++ bareCall keyword q name a) = some s' ∧ s.name = name ∧
      s'.name = s.name ∧ s'.argumentText = s.argumentText ∧ s'.development = s.development := by
  obtain ⟨receiver, development, hcall⟩ := hkeyword
  have hleaves := leaves_constraint (escape_of_isGemName hname q)
  have hne := (forall_of_isGemName hname).1
  have hstatic := isDynamic_of_isGemName hname
  refine ⟨⟨indent, keyword ++ ['('], receiver, q, name, ", ".toList ++ a ++ ')' :: trailing, true,
      development⟩,
    ⟨indent, keyword ++ [' '], receiver, q, name, ", ".toList ++ a ++ [], false, development⟩,
    ?_, ?_, rfl, rfl, ?_, rfl⟩
  · refine (Statement.read?_of_isCall hcall hindent rfl).trans ?_
    rw [ArgumentOpening.read_paren]
    exact Statement.finish?_of_literal rfl hleaves hne hstatic
  · refine (Statement.read?_of_isCall hcall hindent rfl).trans ?_
    rw [ArgumentOpening.read_space, List.append_nil]
    exact Statement.finish?_of_literal rfl hleaves hne hstatic
  · -- The parenthesis closes right behind the arguments; in the other line nothing follows them.
    exact Eq.trans (ha.argumentText_eq rfl rfl) (Eq.symm (ha.argumentText_eq rfl rfl))

/-- In any surrounding lines a call is read alike with parentheses, whatever stands behind them, and
without: it declares a dependency, and the two documents are the same. -/
theorem read_parenthesizedCall {t u trailing : Text} {before after : List Text}
    (ht : Text.lines t =
      before ++ (indent ++ parenthesizedCall keyword q name a trailing) :: after)
    (hu : Text.lines u = before ++ (indent ++ bareCall keyword q name a) :: after) :
    Document.read kind u = Document.read kind t ∧
      ∃ d ∈ (Document.read kind t).declarations,
        d.name = name ∧ d.line = .ofNat before.length := by
  obtain ⟨s, s', hs, hs', hsname, hsame, harguments, hdevelopment⟩ :=
    exists_read?_calls (q := q) hkeyword hindent hname ha trailing
  have hline : (Text.lines t)[before.length]? =
      some (indent ++ parenthesizedCall keyword q name a trailing) := by
    rw [ht]
    simp
  have hlines : Text.lines u =
      (Text.lines t).set before.length (indent ++ bareCall keyword q name a) := by
    rw [ht, hu]
    simp
  obtain ⟨read, front, behind, hread, -, hold, hnew⟩ := exists_read_set hline hlines hs hs'
  constructor
  · rw [hnew, hread.eq_of_argumentText hsame harguments hdevelopment, ← hold]
  · have hmem : s.reported before.length ∈
        (Document.read kind t).declarations.map Declaration.reported := by
      rw [reported_read]
      exact mem_filterMap_lines.2 ⟨_, _, s, hline, hs, rfl⟩
    obtain ⟨d, hd, hreported⟩ := List.mem_map.1 hmem
    exact ⟨d, hd, (congrArg Prod.fst hreported).trans hsname, congrArg (·.2.2) hreported⟩

end Calls

/-- A gem with a list of constraints, and a condition behind its parentheses. -/
def conditionalGem : Text :=
  "group :ci do\n  gem('a', ['> 1', '< 3)']) if b # (c)\nend\n".toList

/-- The same without the condition and without parentheses. -/
def bareGem : Text := "group :ci do\n  gem 'a', ['> 1', '< 3)']\nend\n".toList

theorem read_parenthesizedCall_conditional :
    IsEnclosed "['> 1', '< 3)']".toList ∧
      Document.read .gemfile bareGem = Document.read .gemfile conditionalGem ∧
      ∃ d ∈ (Document.read .gemfile conditionalGem).declarations,
        d.name = "a".toList ∧ d.line = 1 := by
  have hindent : Text.IsBlanks "  ".toList := List.all_eq_true.1 (by decide)
  have henclosed : IsEnclosed "['> 1', '< 3)']".toList := by decide
  have hparenthesized : Text.lines conditionalGem = ["group :ci do".toList] ++
      ("  ".toList ++ parenthesizedCall "gem".toList .single "a".toList
        "['> 1', '< 3)']".toList " if b # (c)".toList) :: ["end".toList] := by
    decide
  have hbare : Text.lines bareGem = ["group :ci do".toList] ++
      ("  ".toList ++ bareCall "gem".toList .single "a".toList
        "['> 1', '< 3)']".toList) :: ["end".toList] := by
    decide
  exact ⟨henclosed,
    read_parenthesizedCall ⟨_, _, .gem⟩ hindent (by decide) henclosed hparenthesized hbare⟩

end GemDeps
