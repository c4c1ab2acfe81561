import GemDeps.Proofs.Spans
import GemDeps.Proofs.VersionArguments
import GemDeps.Revision.Addition

/-!
# Insertions and continued lines

Pinning refuses a declaration that goes on on the next line. Adding a dependency looks for the last
line that declares one, or else for the end of the specification block, and puts the new lines there
whether or not the line in front goes on (`addDependency_splits_iff`).
-/

namespace GemDeps

/-- A line whose code ends in some other character than a comma or a backslash does not go on. -/
theorem continues_eq_false {line u b : Text} {c : Char} (hline : stripComment line = u ++ c :: b)
    (hb : Text.IsBlanks b) (hc : Text.isBlank c = false) (hcomma : c ≠ ',') (hslash : c ≠ '\\') :
    continues line = false := by
  unfold continues
  rw [hline, List.append_cons, Text.trimEnd_append hb, Text.trimEnd_concat hc,
    List.getLast?_concat]
  simp [hcomma, hslash]

namespace SpecificationOpening

/-- Behind the `do` stand blanks, or a parameter and its closing bar. -/
theorem ends_of_parameter? {t : Text} {receiver : Option Text}
    (h : parameter? t = some receiver) :
    Text.IsBlanks t ∨ ∃ u b, t = u ++ '|' :: b ∧ Text.IsBlanks b := by
  unfold parameter? at h
  split at h
  · rename_i ht
    exact .inl (Text.trimStart_eq_nil_iff.1 ht)
  · rename_i r ht
    split at h
    · simp at h
    · rename_i c s hr
      split at h
      · split at h
        · rename_i b hs
          obtain ⟨hb, -⟩ := Option.ite_none_right_eq_some.1 h
          have hs : '|' :: b <:+ s := hs ▸ (List.dropWhile_suffix _).trans (List.dropWhile_suffix _)
          have hr : c :: s <:+ r := hr ▸ List.dropWhile_suffix _
          have ht : '|' :: r <:+ t := ht ▸ List.dropWhile_suffix _
          obtain ⟨u, hu⟩ := ((hs.trans (List.suffix_cons c s)).trans hr).trans
            ((List.suffix_cons '|' r).trans ht)
          exact .inr ⟨u, b, hu.symm, Text.trimStart_eq_nil_iff.1 (List.isEmpty_iff.1 hb)⟩
        · simp at h
      · simp at h
  · simp at h

/-- A line that opens a specification block does not go on. -/
theorem continues_eq_false_of_ofLine? {line : Text} {opening : SpecificationOpening}
    (h : ofLine? line = some opening) : continues line = false := by
  unfold ofLine? at h
  split at h
  · rename_i before receiver hsplit
    obtain ⟨u, hcode, hu⟩ := eq_of_splitDo? hsplit
    rcases ends_of_parameter? hu with hu | ⟨v, b, rfl, hb⟩
    · refine continues_eq_false (u := before ++ ['d']) (c := 'o') (b := u) ?_ hu (by decide)
        (by decide) (by decide)
      simp [hcode]
    · refine continues_eq_false (u := before ++ 'd' :: 'o' :: v) (c := '|') (b := b) ?_ hb
        (by decide) (by decide) (by decide)
      simp [hcode]
  · simp at h

end SpecificationOpening

/-- The specification block is opened on a line that does not go on, and closed behind it. -/
theorem SpecificationSpan.startLine_of_endLine {t : Text} {stop : Nat}
    (h : (find t).endLine = some stop) : ∃ start l, (find t).startLine = some start ∧
      start < stop ∧ (Text.lines t)[start]? = some l ∧ continues l = false := by
  unfold find at h ⊢
  dsimp only at h ⊢
  cases hopening : opening? (Text.lines t) with
  | none => simp [hopening] at h
  | some opening =>
    rw [hopening] at h
    obtain ⟨i, -, hi⟩ := List.exists_of_findSome?_eq_some hopening
    obtain ⟨o, ho, rfl⟩ := Option.map_eq_some_iff.1 hi
    obtain ⟨l, hl, ho⟩ := Option.bind_eq_some_iff.1 ho
    exact ⟨i, l, rfl, (matchingEnd?_lt (by simpa using h)).1, hl,
      SpecificationOpening.continues_eq_false_of_ofLine? ho⟩

/-! ## Where a dependency goes -/

/-- A dependency goes behind the last one, or in front of the end of the block if there is none. -/
theorem firstLine_of_addDependency {t name : Text} {o : DeclarationOptions} {style : Style}
    {r : Revision} (h : addDependency t name o style = .ok r) :
    (∃ last, lastDeclarationLine? .gemspec t = some last ∧ r.firstLine = last + 1) ∨
      (lastDeclarationLine? .gemspec t = none ∧
        (SpecificationSpan.find t).endLine = some r.firstLine) := by
  unfold addDependency at h
  split at h
  · simp at h
  · dsimp only at h
    split at h
    · rename_i last hlast
      obtain rfl := Except.ok.inj h
      exact .inl ⟨last, hlast, rfl⟩
    · rename_i stop hlast hstop
      obtain rfl := Except.ok.inj h
      exact .inr ⟨hlast, hstop⟩
    · simp at h

/-- When lines follow the inserted ones, the line in front of them goes on exactly when it is a
dependency, the last one, that goes on, or, in a gemspec without dependencies, the last line inside
the specification block and goes on. -/
theorem addDependency_splits_iff {t name : Text} {o : DeclarationOptions} {style : Style}
    {r : Revision} (h : addDependency t name o style = .ok r)
    (hlt : r.firstLine < (Text.lines t).length) :
    ∃ line, 0 < r.firstLine ∧ (Text.lines t)[r.firstLine - 1]? = some line ∧
      (continues line = true ↔
        (∃ last l s, lastDeclarationLine? .gemspec t = some last ∧
          (Text.lines t)[last]? = some l ∧ Statement.read? .gemspec l = some s ∧
          continues l = true) ∨
        (lastDeclarationLine? .gemspec t = none ∧ ∃ start stop l,
          (SpecificationSpan.find t).startLine = some start ∧
          (SpecificationSpan.find t).endLine = some stop ∧ start + 1 < stop ∧
          (Text.lines t)[stop - 1]? = some l ∧ continues l = true)) := by
  rcases firstLine_of_addDependency h with ⟨last, hlast, hfirst⟩ | ⟨hnone, hend⟩
  · obtain ⟨l, s, hl, hs⟩ := lastDeclarationLine?_eq_some hlast
    refine ⟨l, by omega, by rwa [hfirst, Nat.add_sub_cancel], ?_⟩
    constructor
    · intro hcont
      exact .inl ⟨last, l, s, hlast, hl, hs, hcont⟩
    · rintro (⟨last', l', -, hlast', hl', -, hcont⟩ | ⟨hnone, -⟩)
      · obtain rfl : last = last' := by simpa [hlast] using hlast'
        obtain rfl : l = l' := by simpa [hl] using hl'
        exact hcont
      · simp [hlast] at hnone
  · obtain ⟨start, opening, hstart, hbehind, hopening, hstops⟩ :=
      SpecificationSpan.startLine_of_endLine hend
    obtain ⟨l, hl⟩ : ∃ l, (Text.lines t)[r.firstLine - 1]? = some l :=
      ⟨_, List.getElem?_eq_getElem (by omega)⟩
    refine ⟨l, by omega, hl, ?_⟩
    constructor
    · intro hcont
      refine .inr ⟨hnone, start, r.firstLine, l, hstart, hend, ?_, hl, hcont⟩
      -- The opening line does not go on, so it is not the line in front.
      by_contra hnext
      have hsame : r.firstLine - 1 = start := by omega
      rw [hsame, hopening] at hl
      obtain rfl := Option.some.inj hl
      simp [hstops] at hcont
    · rintro (⟨last, l', s, hlast, -⟩ | ⟨-, start', stop, l', -, hstop, -, hl', hcont⟩)
      · simp [hnone] at hlast
      · obtain rfl : r.firstLine = stop := by simpa [hend] using hstop
        obtain rfl : l = l' := by simpa [hl] using hl'
        exact hcont

/-- A gemspec with a dependency whose constraint stands on the next line. -/
def continuedGemspec : Text :=
  "Gem::Specification.new do |s|\n".toList ++ "  s.add_dependency 'rack',\n".toList ++
    "    '>= 1'\nend\n".toList

/-- The new line in `continuedGemspec` goes between the dependency and its constraint, behind a line
that pinning refuses to rewrite. -/
theorem addDependency_splits_constraint :
    ∃ r line, addDependency continuedGemspec "rake".toList .none ⟨none, .single, "  ".toList⟩ =
        .ok r ∧
      0 < r.firstLine ∧ r.firstLine < (Text.lines continuedGemspec).length ∧
      (Text.lines continuedGemspec)[r.firstLine - 1]? = some line ∧ continues line = true ∧
      pin continuedGemspec .gemspec "rack".toList "2.0".toList ⟨none, .single, "  ".toList⟩ =
        .error (.multiLineDeclaration "rack".toList) := by
  refine ⟨⟨"Gem::Specification.new do |s|\n".toList ++ "  s.add_dependency 'rack',\n".toList ++
    "  s.add_dependency 'rake'\n".toList ++ "    '>= 1'\nend\n".toList, 2, 3⟩,
    "  s.add_dependency 'rack',".toList, ?_⟩
  decide

/-- In `continuedGemspec` it is the last dependency that goes on. -/
theorem addDependency_splits_iff_continued :
    ∃ last l s, lastDeclarationLine? .gemspec continuedGemspec = some last ∧
      (Text.lines continuedGemspec)[last]? = some l ∧ Statement.read? .gemspec l = some s ∧
      continues l = true := by
  have hadd : addDependency continuedGemspec "rake".toList .none ⟨none, .single, "  ".toList⟩ =
      .ok ⟨"Gem::Specification.new do |s|\n".toList ++ "  s.add_dependency 'rack',\n".toList ++
        "  s.add_dependency 'rake'\n".toList ++ "    '>= 1'\nend\n".toList, 2, 3⟩ := by decide
  obtain ⟨line, -, hline, hiff⟩ := addDependency_splits_iff hadd (by decide)
  have hcont : continues line = true := by
    obtain rfl : "  s.add_dependency 'rack',".toList = line := by
      refine Option.some.inj (Eq.trans ?_ hline)
      decide
    decide
  rcases hiff.1 hcont with hlast | ⟨hnone, -⟩
  · exact hlast
  · exact absurd hnone (by decide)

end GemDeps
