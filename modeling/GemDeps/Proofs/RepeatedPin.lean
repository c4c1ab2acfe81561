import GemDeps.Manifest.Reader
import GemDeps.Proofs.Frame
import GemDeps.Proofs.PinAlgebra

/-!
# Pinning to the same version twice

A pin writes on the line of the declaration and on no other, and a second pin finds what the first
one wrote there. It writes the same again unless the name is the key of an option: the constraint of
the first pin is then a key as well and no version argument, so the second one puts another in front
of it (`pin_pin_eq_iff`).
-/

namespace GemDeps

variable {kind : Kind} {t name constraint : Text}

/-! ## Statements pinned twice -/

/-- The statement that a pin in the quotes of the name writes. -/
def Statement.withConstraint (s : Statement) (constraint : Text) : Statement :=
  { s with rest := ", ".toList ++ s.quote.wrap constraint ++ dropVersionArguments s.rest }

/-- Only behind the key of an option does the first constraint stay where it is. -/
theorem Statement.pinned_withConstraint_iff (s : Statement) (constraint : Text) :
    (s.withConstraint constraint).pinned constraint s.quote = s.pinned constraint s.quote ↔
      continuesKey s.rest = false := by
  have hpinned : (s.withConstraint constraint).pinned constraint s.quote =
      s.headIn s.quote ++ ", ".toList ++ s.quote.wrap constraint ++
        dropVersionArguments (", ".toList ++ s.quote.wrap constraint ++
          dropVersionArguments s.rest) := rfl
  rw [hpinned, Statement.pinned, List.append_cancel_left_eq, dropVersionArguments_wrap,
    continuesKey_dropVersionArguments_eq, dropVersionArguments_dropVersionArguments]
  cases continuesKey s.rest with
  | false => exact iff_of_true rfl rfl
  | true =>
    refine iff_of_false (fun h => ?_) Bool.true_eq_false.mp
    have hlength := congrArg List.length h
    simp only [if_true, List.length_append] at hlength
    have hcomma : ", ".toList.length = 2 := by decide
    omega

/-! ## Two pins -/

/-- A pin in the quotes of the line rewrites that line and no other. Pinned to the same version
again, the declaration is found on the same line, and the text is the same exactly when no option's
mark follows the name. -/
theorem pin_pin_eq_iff {style : Style} {r : Revision} (hstyle : style.quote = none)
    (hconstraint : '\n' ∉ constraint) (hpin : pin t kind name constraint style = .ok r) :
    r.RewritesLineOf t ∧ ∃ line s u, declarationToEdit kind t name = .ok (r.firstLine, line, s) ∧
      pin r.text kind name constraint style = .ok u ∧ u = { r with text := u.text } ∧
      (u.text = r.text ↔ continuesKey s.rest = false) := by
  refine ⟨rewritesLineOf_pin hconstraint hpin, ?_⟩
  obtain ⟨i, line, s, hs, rfl⟩ := pin_eq_ok_iff.1 hpin
  have hquote : ∀ q : QuoteStyle, style.quote.getD q = q := by
    intro q
    rw [hstyle]
    rfl
  rw [hquote]
  obtain ⟨-, hs₁⟩ := hs.pinned hconstraint (.inl rfl)
  obtain ⟨hfits, -⟩ := hs₁.pinned hconstraint (.inl rfl)
  -- The second pin finds the statement that the first one wrote.
  refine ⟨line, s, .ofLine (Revision.ofLine t i (s.pinned constraint s.quote)).text i
    ((s.withConstraint constraint).pinned constraint s.quote),
    declarationToEdit_eq_ok_iff.2 hs, ?_, rfl, ?_⟩
  · refine pin_eq_ok_iff.2 ⟨_, _, _, hs₁, ?_⟩
    rw [hquote]
    rfl
  · rw [← s.pinned_withConstraint_iff constraint]
    exact LineBuffer.replace_eq_self_iff hfits hs₁.line_eq

/-- A gem without a version is pinned twice to the same text. -/
theorem pin_pin_eq_iff_plain :
    ∃ r, pin "gem 'rack' # web\n".toList .gemfile "rack".toList "~> 1.0".toList
        ⟨none, .single, "  ".toList⟩ = .ok r ∧
      r.text = "gem 'rack', '~> 1.0' # web\n".toList ∧
      ∃ u, pin r.text .gemfile "rack".toList "~> 1.0".toList ⟨none, .single, "  ".toList⟩ = .ok u ∧
        u.text = r.text := by
  have hd : declarationToEdit .gemfile "gem 'rack' # web\n".toList "rack".toList =
      .ok (0, "gem 'rack' # web".toList, ⟨[], "gem ".toList, none, .single, "rack".toList,
        " # web".toList, false, false⟩) := by decide
  have hdrop : dropVersionArguments " # web".toList = " # web".toList :=
    dropVersionArguments_of_none (by decide)
  have hpin : pin "gem 'rack' # web\n".toList .gemfile "rack".toList "~> 1.0".toList
      ⟨none, .single, "  ".toList⟩ = .ok ⟨"gem 'rack', '~> 1.0' # web\n".toList, 0, 1⟩ := by
    refine pin_eq_ok_iff.2 ⟨_, _, _, declarationToEdit_eq_ok_iff.1 hd, ?_⟩
    rw [Statement.pinned, hdrop]
    decide
  obtain ⟨-, line, s, u, hs, hu, -, htext⟩ := pin_pin_eq_iff rfl (by decide) hpin
  refine ⟨_, hpin, rfl, u, hu, htext.2 ?_⟩
  rw [hd] at hs
  cases hs
  decide

/-- A gem whose name is the key of an option gets a second constraint. -/
theorem pin_pin_key :
    ((Document.read .gemfile "gem 'x' => 1\n".toList).declarations.head?.map (·.name)) =
        some "x".toList ∧
      pin "gem 'x' => 1\n".toList .gemfile "x".toList "~> 1.0".toList
        ⟨none, .single, "  ".toList⟩ = .ok ⟨"gem 'x', '~> 1.0' => 1\n".toList, 0, 1⟩ ∧
      pin "gem 'x', '~> 1.0' => 1\n".toList .gemfile "x".toList "~> 1.0".toList
        ⟨none, .single, "  ".toList⟩ = .ok ⟨"gem 'x', '~> 1.0', '~> 1.0' => 1\n".toList, 0, 1⟩ := by
  have hdrop : dropVersionArguments " => 1".toList = " => 1".toList :=
    dropVersionArguments_of_none (by decide)
  have hdrop' : dropVersionArguments ", '~> 1.0' => 1".toList = ", '~> 1.0' => 1".toList :=
    dropVersionArguments_of_none (dropVersionArgument?_wrap .single "~> 1.0".toList " => 1".toList)
  refine ⟨by decide, pin_eq_ok_iff.2 ⟨0, _, ⟨[], "gem ".toList, none, .single, "x".toList,
    " => 1".toList, false, false⟩, declarationToEdit_eq_ok_iff.1 (by rfl), ?_⟩, ?_⟩
  · rw [Statement.pinned, hdrop]
    decide
  · refine pin_eq_ok_iff.2 ⟨0, _, ⟨[], "gem ".toList, none, .single, "x".toList,
      ", '~> 1.0' => 1".toList, false, false⟩, declarationToEdit_eq_ok_iff.1 (by rfl), ?_⟩
    rw [Statement.pinned, hdrop']
    decide

end GemDeps
