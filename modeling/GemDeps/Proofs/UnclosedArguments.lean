import GemDeps.Proofs.DeclaredLines
import GemDeps.Proofs.PinAlgebra
import GemDeps.Proofs.WrittenStatements
import Mathlib.Data.Option.Basic

/-!
# Arguments left open at the end of a line

A line may leave a list behind the name open, or the parenthesis around the arguments
(`Statement.unclosed?`), and the declaration then goes on on the next line. An edit is refused only
if what is left open ends in a comma or a backslash. Else the declaration is edited around it: the
line stays open behind a new constraint, and behind what is left without the old ones
(`edits_unclosed`).
-/

namespace GemDeps

/-! ## Lists and parentheses -/

/-- The list behind a comma, if no bracket closes it. -/
def unclosedList? (t : Text) : Option Text :=
  match Text.trimStart t with
  | ',' :: r =>
    let list := Text.trimStart r
    if list.head? == some '[' && (splitList? .code 0 list).isNone then some list else none
  | _ => none

/-- Does the code of a text close a parenthesis that is open in front of it? -/
def closesParen (t : Text) : Bool := (beforeClosingParen? .code 0 (stripComment t)).isSome

/-- What the line of a statement leaves open: a list behind the version arguments, or else the rest
of the line in a parenthesis. -/
def Statement.unclosed? (s : Statement) : Option Text :=
  unclosedList? (dropVersionArguments s.rest) <|>
    if s.parenthesized && !closesParen s.rest then some s.rest else none

theorem closesParen_flat {b : Text} (hb : IsFlat b) (t : Text) :
    closesParen (b ++ t) = closesParen t := by
  rw [closesParen, hb.isUncommented, beforeClosingParen?_flat hb, Option.isSome_map, closesParen]

theorem closesParen_token {k : Text} (hk : IsVersionToken k) (t : Text) :
    closesParen (k ++ t) = closesParen t := by
  rw [closesParen, hk.isFinished.uncommented, hk.beforeClosingParen?_append, Option.isSome_map]
  rfl

/-- Version arguments close nothing. -/
theorem closesParen_dropVersionArguments (t : Text) :
    closesParen (dropVersionArguments t) = closesParen t := by
  fun_induction dropVersionArguments t with
  | case1 t r h ih =>
    obtain ⟨b, b', k, hb, hb', rfl, hk, -⟩ := dropVersionArgument?_eq_some_iff.1 h
    have hcomma : IsFlat [','] := .cons (by decide) .nil
    rw [ih, closesParen_flat (isFlat_of_isBlanks hb), ← List.singleton_append,
      closesParen_flat hcomma, closesParen_flat (isFlat_of_isBlanks hb'), closesParen_token hk]
  | case2 t h => rfl

theorem closesParen_constraint (q : QuoteStyle) (constraint t : Text) :
    closesParen (", ".toList ++ q.wrap constraint ++ t) = closesParen t :=
  closesParen_flat (isFlat_constraint q constraint) t

theorem unclosedList?_eq_some {t list : Text} (h : unclosedList? t = some list) :
    ∃ b b' r, Text.IsBlanks b ∧ Text.IsBlanks b' ∧ t = b ++ ',' :: (b' ++ list) ∧
      list = '[' :: r := by
  unfold unclosedList? at h
  split at h
  · rename_i u hu
    obtain ⟨hlist, h⟩ := Option.ite_none_right_eq_some.1 h
    obtain rfl := Option.some.inj h
    cases hr : Text.trimStart u with
    | nil => simp [hr] at hlist
    | cons c r =>
      obtain rfl : c = '[' := by
        rw [hr, Bool.and_eq_true] at hlist
        simpa using hlist.1
      refine ⟨_, _, r, Text.isBlanks_indentation t, Text.isBlanks_indentation u, ?_, rfl⟩
      rw [← hr, Text.indentation_append_trimStart, ← hu, Text.indentation_append_trimStart]
  · simp at h

/-- An option's mark is no comma. -/
theorem unclosedList?_of_continuesKey {t : Text} (h : continuesKey t = true) :
    unclosedList? t = none := by
  unfold continuesKey at h
  unfold unclosedList?
  split
  · rename_i r hr
    simp [hr] at h
  · rfl

/-- A constraint leaves the list open that was open behind it. -/
theorem unclosedList?_constraint (q : QuoteStyle) (constraint r : Text) :
    unclosedList? (dropVersionArguments
        (", ".toList ++ q.wrap constraint ++ dropVersionArguments r)) =
      unclosedList? (dropVersionArguments r) := by
  rw [dropVersionArguments_wrap, dropVersionArguments_dropVersionArguments]
  cases hkey : continuesKey (dropVersionArguments r) with
  | false => rfl
  | true =>
    rw [if_pos rfl, unclosedList?_of_continuesKey hkey]
    -- The argument behind the comma is the constraint.
    have hquote : (q.mark == '[') = false := by cases q <;> decide
    have hargument : Text.trimStart (' ' :: (q.wrap constraint ++ dropVersionArguments r)) =
        q.wrap constraint ++ dropVersionArguments r :=
      (Text.trimStart_append (b := [' ']) (List.all_eq_true.1 (by decide)) _).trans
        (Text.trimStart_cons (Text.isBlank_mark q) _)
    show unclosedList? (',' :: ' ' :: (q.wrap constraint ++ dropVersionArguments r)) = none
    rw [unclosedList?, Text.trimStart_cons (by decide)]
    simp only [hargument]
    rw [QuoteStyle.wrap]
    simp [hquote]

/-! ## Statements -/

theorem Statement.isSome_unclosed? (s : Statement) : s.unclosed?.isSome =
    ((unclosedList? (dropVersionArguments s.rest)).isSome ||
      (s.parenthesized && !closesParen s.rest)) := by
  unfold Statement.unclosed?
  cases unclosedList? (dropVersionArguments s.rest) with
  | some list => rfl
  | none => cases hparen : s.parenthesized && !closesParen s.rest <;> simp

theorem isFinished_square : IsFinished ['['] :=
  ⟨fun _ => rfl, [], '[', rfl, by decide, by decide, by decide⟩

/-- A line goes on when what it leaves open does. -/
theorem Statement.IsOn.continues_unclosed? {s : Statement} {kind : Kind} {line w : Text}
    (h : s.IsOn kind line) (hw : s.unclosed? = some w) : continues line = continues w := by
  have hrest : continues line = continues s.rest := by
    rw [← h.head_append_rest, continues_append h.isFinished_head]
  rw [hrest]
  rcases (Option.orElse_eq_some _ _ _).1 hw with hlist | ⟨-, hparen⟩
  · obtain ⟨b, b', r, hb, hb', hdrop, rfl⟩ := unclosedList?_eq_some hlist
    obtain ⟨dropped, hsplit, hdropped⟩ := exists_dropped s.rest
    have hcomma : IsUncommented (b ++ ',' :: b') :=
      ((isFlat_of_isBlanks hb).append (.cons (by decide) (isFlat_of_isBlanks hb'))).isUncommented
    have hopening : IsUncommented (dropped ++ (b ++ ',' :: b')) := by
      rcases hdropped with rfl | ⟨hd, -⟩
      · exact hcomma
      · exact hd.uncommented.append hcomma
    have hsplit' : s.rest = dropped ++ (b ++ ',' :: b') ++ ['['] ++ r := by
      rw [hsplit, hdrop]
      simp
    rw [hsplit', continues_append (isFinished_square.append_left hopening),
      ← List.singleton_append, continues_append isFinished_square]
  · obtain ⟨-, hparen⟩ := Option.ite_none_right_eq_some.1 hparen
    rw [Option.some.inj hparen]

/-! ## Edits -/

/-- On a line that leaves arguments open, both edits are refused exactly when what is left open ends
in a comma or a backslash. Else a pin puts its constraint in front of it, an unpin finds no
constraint or takes those in front of it, and the line that is written leaves arguments open. -/
theorem edits_unclosed {kind : Kind} {t name line w : Text} {i : Nat} {s : Statement}
    (hfound : declarationLine? kind t name = some i) (hline : (Text.lines t)[i]? = some line)
    (hread : Statement.read? kind line = some s) (hopen : s.unclosed? = some w) :
    (∀ constraint style, pin t kind name constraint style = .error (.multiLineDeclaration name) ↔
        continues w = true) ∧
      (unpin t kind name = .error (.multiLineDeclaration name) ↔ continues w = true) ∧
      (continues w = false →
        (∀ constraint style, '\n' ∉ constraint → style.quote = none ∨ isGemName name = true →
          ∃ r line' s', pin t kind name constraint style = .ok r ∧
            DeclaredOn kind r.text name i line' s' ∧ s'.unclosed?.isSome = true) ∧
        (unpin t kind name = .ok none ∨ ∃ r line' s', unpin t kind name = .ok (some r) ∧
          DeclaredOn kind r.text name i line' s' ∧ s'.unclosed?.isSome = true)) := by
  have hgoes := (Statement.isOn_of_read? hread).continues_unclosed? hopen
  have hrefused : declarationToEdit kind t name = .error (.multiLineDeclaration name) ↔
      continues w = true := by
    rw [declarationToEdit_of_read? hfound hline hread, hgoes]
    cases continues w <;> simp
  refine ⟨fun constraint style => pin_eq_error_iff.trans hrefused,
    unpin_eq_error_iff.trans hrefused, ?_⟩
  intro hsingle
  have hs : DeclaredOn kind t name i line s :=
    ⟨hfound, hline, Statement.isOn_of_read? hread, hgoes.trans hsingle⟩
  have hunclosed : s.unclosed?.isSome = true := by
    rw [hopen]
    rfl
  rw [s.isSome_unclosed?] at hunclosed
  constructor
  · intro constraint style hconstraint hquote
    have hq : s.quote = style.quote.getD s.quote ∨
        (style.quote.getD s.quote).escape s.name = s.name := by
      rcases hquote with hquote | hname
      · left
        rw [hquote]
        rfl
      · right
        rw [hs.name_eq]
        exact escape_of_isGemName hname _
    refine ⟨_, _, _, pin_eq_ok_iff.2 ⟨i, line, s, hs, rfl⟩, (hs.pinned hconstraint hq).2, ?_⟩
    rw [Statement.isSome_unclosed?, unclosedList?_constraint, closesParen_constraint,
      closesParen_dropVersionArguments]
    exact hunclosed
  · have hunpin := unpin_eq_ok_iff.2 ⟨i, line, s, hs, rfl⟩
    cases hv : hasVersionArgument s.rest with
    | false =>
      left
      rw [hunpin, hv]
      rfl
    | true =>
      right
      refine ⟨_, _, _, hunpin.trans (by rw [if_pos hv]), hs.unpinned.2, ?_⟩
      rw [Statement.isSome_unclosed?, dropVersionArguments_dropVersionArguments,
        closesParen_dropVersionArguments]
      exact hunclosed

/-- A list that breaks behind a comma: both edits are refused. -/
theorem edits_unclosed_comma :
    pin "gem 'x', ['>= 1',\n  '< 2']\n".toList .gemfile "x".toList "2.0".toList
        ⟨none, .single, "  ".toList⟩ = .error (.multiLineDeclaration "x".toList) ∧
      unpin "gem 'x', ['>= 1',\n  '< 2']\n".toList .gemfile "x".toList =
        .error (.multiLineDeclaration "x".toList) := by
  have hdrop : dropVersionArguments ", ['>= 1',".toList = ", ['>= 1',".toList :=
    dropVersionArguments_of_none (by decide)
  have hopen : Statement.unclosed? ⟨[], "gem ".toList, none, .single, "x".toList,
      ", ['>= 1',".toList, false, false⟩ = some "['>= 1',".toList := by
    rw [Statement.unclosed?, hdrop]
    decide
  obtain ⟨hpin, hunpin, -⟩ := @edits_unclosed .gemfile "gem 'x', ['>= 1',\n  '< 2']\n".toList
    "x".toList "gem 'x', ['>= 1',".toList _ 0 _ (by decide) (by decide) (by decide) hopen
  exact ⟨(hpin _ _).2 (by decide), hunpin.2 (by decide)⟩

/-- A list that breaks behind its bracket: nothing is said to be there, and a second constraint is
written. -/
theorem edits_unclosedList :
    Statement.unclosed? ⟨[], "gem ".toList, none, .single, "x".toList, ", [".toList, false, false⟩ =
        some "[".toList ∧
      Statement.read? .gemfile "gem 'x', [".toList =
        some ⟨[], "gem ".toList, none, .single, "x".toList, ", [".toList, false, false⟩ ∧
      unpin "gem 'x', [\n  '>= 1'\n]\n".toList .gemfile "x".toList = .ok none ∧
      pin "gem 'x', [\n  '>= 1'\n]\n".toList .gemfile "x".toList "2.0".toList
        ⟨none, .single, "  ".toList⟩ =
        .ok ⟨"gem 'x', '2.0', [\n  '>= 1'\n]\n".toList, 0, 1⟩ := by
  have hdrop : dropVersionArguments ", [".toList = ", [".toList :=
    dropVersionArguments_of_none (by decide)
  have hs : DeclaredOn .gemfile "gem 'x', [\n  '>= 1'\n]\n".toList "x".toList 0
      "gem 'x', [".toList
      ⟨[], "gem ".toList, none, .single, "x".toList, ", [".toList, false, false⟩ :=
    declarationToEdit_eq_ok_iff.1 (by decide)
  refine ⟨?_, by decide, unpin_eq_ok_iff.2 ⟨_, _, _, hs, by decide⟩,
    pin_eq_ok_iff.2 ⟨_, _, _, hs, ?_⟩⟩
  · rw [Statement.unclosed?, hdrop]
    decide
  · rw [Statement.pinned, hdrop]
    decide

end GemDeps
