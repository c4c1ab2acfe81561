import GemDeps.Proofs.Requirement
import GemDeps.Proofs.Validated

/-!
# Reading back what was pinned

What the reader reports of a gem after it was pinned or unpinned (`reported_pin_unpin`). Edits
recognise strings and lists in square brackets as versions; the reader also takes word lists, and
takes a string for a version only when nothing but a comma stands behind it. So a pinned gem is
reported with its constraint, and an unpinned one without, exactly when the version arguments that
the edit leaves give no requirement of their own, and for the pinned one when a comma or nothing
follows them (`reported_pin_words` is a gem for which they do).
-/

namespace GemDeps

/-- The requirement that the reader reports for a name, if it finds the name. -/
def reportedRequirement? (kind : Kind) (t name : Text) : Option (Option Text) :=
  ((Document.read kind t).find? name).map (·.versionRequirement)

/-- A statement without its version arguments. -/
def Statement.unversioned (s : Statement) : Statement :=
  { s with rest := dropVersionArguments s.rest }

theorem reportedRequirement?_eq {kind : Kind} {t name line : Text} {i : Nat} {s : Statement}
    (h : declarationLine? kind t name = some i) (hline : (Text.lines t)[i]? = some line)
    (hs : Statement.read? kind line = some s) :
    reportedRequirement? kind t name = some s.requirement := by
  obtain ⟨d, hd, hreported⟩ := Option.map_eq_some_iff.1 (reported_find? h hline hs)
  rw [reportedRequirement?, hd, Option.map_some]
  exact congrArg (fun p => some p.2.1) hreported

theorem DeclaredOn.reportedRequirement?_eq {kind : Kind} {t name line : Text} {i : Nat}
    {s : Statement} (h : DeclaredOn kind t name i line s) :
    reportedRequirement? kind t name = some s.requirement :=
  GemDeps.reportedRequirement?_eq h.found h.line_eq h.isOn.read?_eq

/-- A declaration is found once. -/
theorem DeclaredOn.statement_eq {kind : Kind} {t name line line' : Text} {i i' : Nat}
    {s s' : Statement} (h : DeclaredOn kind t name i line s)
    (h' : declarationLine? kind t name = some i') (hline' : (Text.lines t)[i']? = some line')
    (hs' : Statement.read? kind line' = some s') : s = s' := by
  obtain rfl : i = i' := by simpa [h.found] using h'
  obtain rfl : line = line' := by simpa [h.line_eq] using hline'
  simpa [h.isOn.read?_eq] using hs'

/-! ## After a pin -/

/-- The reader reports the constraint of a pinned gem exactly when a comma or nothing follows what
the edit leaves, and what it leaves gives no requirement. -/
theorem DeclaredOn.reportedRequirement?_pin {kind : Kind} {t name line c : Text} {i : Nat}
    {s : Statement} {q : QuoteStyle} (h : DeclaredOn kind t name i line s)
    (hname : q.escape s.name = s.name) (hnew : '\n' ∉ c) (hescape : q.escape c = c)
    (htrim : c.trim = c) (hne : c ≠ []) :
    reportedRequirement? kind (Revision.ofLine t i (s.pinned c q)).text name = some (some c) ↔
      s.unversioned.IsSeparated ∧ s.unversioned.requirement = none := by
  obtain ⟨-, hpinned⟩ := h.pinned hnew (.inr hname)
  rw [hpinned.reportedRequirement?_eq, Option.some.injEq]
  exact requirement_constraint_iff hescape htrim hne s.unversioned

/-! ## Pinning and unpinning -/

/-- For a checked name that the reader finds and a checked constraint on one line: the reader
reports exactly the constraint after a pin when, in what the edit leaves of the arguments, a comma
or nothing comes first and no version is left; it reports none after unpinning, and none when there
was nothing to unpin, when no version is left. Behind a single comma a version is left only as a
word list. -/
theorem reported_pin_unpin {kind : Kind} {t name v : Text} {op : Option Operator}
    (hname : isGemName name = true)
    (hfound : ((Document.read kind t).find? name).isSome = true)
    (hversion : checkVersion v op = .ok ()) (hnew : '\n' ∉ versionConstraint v op) :
    ∃ i line s, declarationLine? kind t name = some i ∧ (Text.lines t)[i]? = some line ∧
      Statement.read? kind line = some s ∧
      (∀ style r, pin t kind name (versionConstraint v op) style = .ok r →
        (reportedRequirement? kind r.text name = some (some (versionConstraint v op)) ↔
          s.unversioned.IsSeparated ∧ s.unversioned.requirement = none)) ∧
      (∀ r, unpin t kind name = .ok (some r) →
        (reportedRequirement? kind r.text name = some none ↔
          s.unversioned.requirement = none)) ∧
      (unpin t kind name = .ok none →
        (reportedRequirement? kind t name = some none ↔ s.unversioned.requirement = none)) ∧
      (s.unversioned.IsSeparated →
        (Text.trimStart s.unversioned.arguments).head? ≠ some ',' →
        (s.unversioned.requirement = none ↔
          ∀ a ∈ (splitArguments s.unversioned.arguments).head?, ∀ ws,
            wordArgument? a = some ws → ws = [])) := by
  obtain ⟨i, line, s, hi, hline, hs⟩ := isSome_find?_iff.1 hfound
  obtain ⟨hbare, hne, htrim⟩ := constraint_of_checkVersion hversion
  refine ⟨i, line, s, hi, hline, hs, ?_, ?_, ?_, ?_⟩
  · intro style r hr
    obtain ⟨i', line', s', hon, rfl⟩ := pin_eq_ok_iff.1 hr
    obtain rfl := hon.statement_eq hi hline hs
    have hescape : (style.quote.getD s'.quote).escape s'.name = s'.name := by
      rw [hon.name_eq]
      exact escape_of_isBare (isBare_of_isGemName hname) _
    exact hon.reportedRequirement?_pin hescape hnew (escape_of_isBare hbare _) htrim hne
  · intro r hr
    obtain ⟨i', line', s', hon, hedit⟩ := unpin_eq_ok_iff.1 hr
    obtain rfl := hon.statement_eq hi hline hs
    obtain ⟨-, hedit⟩ := Option.ite_none_right_eq_some.1 hedit.symm
    obtain rfl := Option.some.inj hedit
    rw [hon.unpinned.2.reportedRequirement?_eq, Option.some.injEq]
    rfl
  · intro hr
    obtain ⟨i', line', s', hon, hedit⟩ := unpin_eq_ok_iff.1 hr
    obtain rfl := hon.statement_eq hi hline hs
    have hdrop : dropVersionArguments s'.rest = s'.rest := by
      refine dropVersionArguments_of_none ?_
      by_contra hsome
      rw [if_pos (by simpa [hasVersionArgument, Option.isSome_iff_ne_none] using hsome)] at hedit
      cases hedit
    rw [hon.reportedRequirement?_eq, Option.some.injEq, Statement.unversioned, hdrop]
  · intro hseparated hsingle
    exact requirement_eq_none_iff (dropVersionArgument?_dropVersionArguments s.rest) hseparated
      hsingle

/-- The statement of a gem with a word list for its versions. -/
def wordListGem : Statement :=
  ⟨[], "gem ".toList, none, .single, "x".toList, ", %w[1.0 2.0]".toList, false, false⟩

theorem leadingVersions_words :
    (leadingVersions ["%w[1.0 2.0]".toList]).1 = ["1.0".toList, "2.0".toList] := by
  have hwords : wordArgument? "%w[1.0 2.0]".toList = some ["1.0".toList, "2.0".toList] := by decide
  rw [leadingVersions, Value.read_wordArgument (by decide) hwords, Value.versions?_words (by simp)]
  rfl

theorem reportedRequirement?_words :
    reportedRequirement? .gemfile "gem 'x', %w[1.0 2.0]\n".toList "x".toList =
      some (some "1.0, 2.0".toList) := by
  have harguments : splitArguments wordListGem.arguments = ["%w[1.0 2.0]".toList] := by decide
  have hrequirement : wordListGem.requirement = some "1.0, 2.0".toList := by
    rw [Statement.requirement, harguments, leadingVersions_words]
    decide
  rw [← hrequirement]
  exact @reportedRequirement?_eq .gemfile _ _ "gem 'x', %w[1.0 2.0]".toList 0 wordListGem
    (by decide) (by decide) (by decide)

/-- A pin leaves a word list behind the constraint, and unpinning finds nothing to remove. -/
theorem reported_pin_words :
    ∃ r, isGemName "x".toList = true ∧ checkVersion "3.0".toList none = .ok () ∧
      pin "gem 'x', %w[1.0 2.0]\n".toList .gemfile "x".toList
        (versionConstraint "3.0".toList none) ⟨none, .single, "  ".toList⟩ = .ok r ∧
      reportedRequirement? .gemfile r.text "x".toList = some (some "3.0, 1.0, 2.0".toList) ∧
      unpin "gem 'x', %w[1.0 2.0]\n".toList .gemfile "x".toList = .ok none ∧
      reportedRequirement? .gemfile "gem 'x', %w[1.0 2.0]\n".toList "x".toList =
        some (some "1.0, 2.0".toList) := by
  have hd : declarationToEdit .gemfile "gem 'x', %w[1.0 2.0]\n".toList "x".toList =
      .ok (0, "gem 'x', %w[1.0 2.0]".toList, wordListGem) := by decide
  have hdrop : dropVersionArguments wordListGem.rest = wordListGem.rest :=
    dropVersionArguments_of_none (by decide)
  have hread : Value.read "'3.0'".toList = .str "3.0".toList :=
    Value.read_literal (leaves_escape .single "3.0".toList)
  have harguments : splitArguments (Statement.arguments { wordListGem with
      rest := ", '3.0', %w[1.0 2.0]".toList }) = ["'3.0'".toList, "%w[1.0 2.0]".toList] := by decide
  have hrequirement : Statement.requirement { wordListGem with
      rest := ", '3.0', %w[1.0 2.0]".toList } = some "3.0, 1.0, 2.0".toList := by
    rw [Statement.requirement, harguments, leadingVersions_cons_str hread, leadingVersions_words]
    decide
  refine ⟨⟨"gem 'x', '3.0', %w[1.0 2.0]\n".toList, 0, 1⟩, by decide, by decide, ?_, ?_, by decide,
    reportedRequirement?_words⟩
  · refine pin_eq_ok_iff.2 ⟨_, _, _, declarationToEdit_eq_ok_iff.1 hd, ?_⟩
    rw [Statement.pinned, hdrop]
    decide
  · rw [← hrequirement]
    exact @reportedRequirement?_eq .gemfile _ _ "gem 'x', '3.0', %w[1.0 2.0]".toList 0 _
      (by decide) (by decide) (by decide)

/-- The versions of a word list are left when the gem is unpinned. -/
theorem reported_pin_unpin_words :
    ∃ s, Statement.read? .gemfile "gem 'x', %w[1.0 2.0]".toList = some s ∧
      s.unversioned.requirement ≠ none := by
  have hfound : ((Document.read .gemfile "gem 'x', %w[1.0 2.0]\n".toList).find?
      "x".toList).isSome = true := by
    rw [← Option.isSome_map, ← reportedRequirement?, reportedRequirement?_words]
    rfl
  obtain ⟨i, line, s, hi, hline, hs, -, -, hunpin, -⟩ :=
    @reported_pin_unpin .gemfile "gem 'x', %w[1.0 2.0]\n".toList "x".toList "3.0".toList none
      (by decide) hfound (by decide) (by decide)
  obtain rfl : 0 = i := by
    refine Option.some.inj (Eq.trans ?_ hi)
    decide
  obtain rfl : "gem 'x', %w[1.0 2.0]".toList = line := by
    refine Option.some.inj (Eq.trans ?_ hline)
    decide
  refine ⟨s, hs, fun hnone => ?_⟩
  have hreported := (hunpin (by decide)).2 hnone
  rw [reportedRequirement?_words] at hreported
  cases hreported

end GemDeps
