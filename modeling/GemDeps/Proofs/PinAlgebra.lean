import GemDeps.Proofs.EditedLine

/-!
# Pinning and unpinning in a row

The last of several pins counts, unpinning takes a pin back, and pinning after unpinning is pinning
(`pin_unpin_laws`). A written constraint is one version argument in front of what is left of the
rest, so each second edit finds on the line what the first one found there.

The laws hold in the quotes of the line: asking for other quotes also rewrites the name. They fail
for a name that is the key of an option, since a constraint written behind it would be a key too.
-/

namespace GemDeps

variable {kind : Kind} {t name line : Text} {i : Nat} {s : Statement}

/-! ## Statements edited twice -/

section Statements

variable (hkey : continuesKey (dropVersionArguments s.rest) = false) (q : QuoteStyle)
  (constraint : Text)

include hkey

theorem dropVersionArguments_constraint :
    dropVersionArguments (", ".toList ++ q.wrap constraint ++ dropVersionArguments s.rest) =
      dropVersionArguments s.rest := by
  rw [dropVersionArguments_wrap, hkey]
  exact dropVersionArguments_dropVersionArguments s.rest

theorem hasVersionArgument_constraint :
    hasVersionArgument (", ".toList ++ q.wrap constraint ++ dropVersionArguments s.rest) =
      true := by
  rw [hasVersionArgument, dropVersionArgument?_constraint q constraint hkey]
  rfl

end Statements

theorem hasVersionArgument_dropVersionArguments (r : Text) :
    hasVersionArgument (dropVersionArguments r) = false := by
  rw [hasVersionArgument, dropVersionArgument?_dropVersionArguments]
  rfl

theorem dropVersionArguments_of_hasVersionArgument {r : Text} (h : hasVersionArgument r = false) :
    dropVersionArguments r = r :=
  dropVersionArguments_of_none (by simpa [hasVersionArgument] using h)

/-! ## The laws -/

/-- Where no quotes are asked for and the name is no option's key: pinning again replaces the
constraint; unpinning after a pin gives what unpinning alone gives, or the text itself when there
was nothing to unpin; pinning after unpinning gives what pinning alone gives; and unpinning again
changes nothing. -/
theorem pin_unpin_laws {c₁ : Text} (c₂ : Text) {style : Style} {r₁ : Revision}
    (hstyle : style.quote = none) (hc₁ : '\n' ∉ c₁) (hpin : pin t kind name c₁ style = .ok r₁)
    (hkey : ∀ i line s, declarationToEdit kind t name = .ok (i, line, s) →
      continuesKey s.rest = false) :
    (∃ r₂, pin t kind name c₂ style = .ok r₂ ∧ pin r₁.text kind name c₂ style = .ok r₂) ∧
      ((∃ r, unpin t kind name = .ok (some r) ∧ unpin r₁.text kind name = .ok (some r) ∧
          pin r.text kind name c₁ style = .ok r₁ ∧ unpin r.text kind name = .ok none) ∨
        ∃ r, unpin t kind name = .ok none ∧ unpin r₁.text kind name = .ok (some r) ∧
          r.text = t) := by
  obtain ⟨i, line, s, hs, rfl⟩ := pin_eq_ok_iff.1 hpin
  have hrest := continuesKey_dropVersionArguments (hkey i line s (declarationToEdit_eq_ok_iff.2 hs))
  have hquote : ∀ q : QuoteStyle, style.quote.getD q = q := by
    intro q
    rw [hstyle]
    rfl
  rw [hquote]
  obtain ⟨hfits₁, hs₁⟩ := hs.pinned hc₁ (.inl rfl)
  obtain ⟨hfits, hs'⟩ := hs.unpinned
  have hunpin₁ : unpin (Revision.ofLine t i (s.pinned c₁ s.quote)).text kind name =
      .ok (some (.ofLine t i s.unpinned)) := by
    refine unpin_eq_ok_iff.2 ⟨_, _, _, hs₁, ?_⟩
    rw [if_pos (hasVersionArgument_constraint hrest s.quote c₁), ofLine_ofLine hfits₁]
    unfold Statement.unpinned
    rw [dropVersionArguments_constraint hrest]
    rfl
  -- The second edit finds the statement that the first one wrote, on the same line.
  refine ⟨⟨.ofLine t i (s.pinned c₂ s.quote), ?_, ?_⟩, ?_⟩
  · exact pin_eq_ok_iff.2 ⟨_, _, _, hs, by rw [hquote]⟩
  · refine pin_eq_ok_iff.2 ⟨_, _, _, hs₁, ?_⟩
    rw [hquote, ofLine_ofLine hfits₁]
    unfold Statement.pinned
    rw [dropVersionArguments_constraint hrest]
    rfl
  · cases hv : hasVersionArgument s.rest with
    | true =>
      refine .inl ⟨.ofLine t i s.unpinned, ?_, hunpin₁, ?_, ?_⟩
      · exact unpin_eq_ok_iff.2 ⟨_, _, _, hs, by rw [if_pos hv]⟩
      · refine pin_eq_ok_iff.2 ⟨_, _, _, hs', ?_⟩
        rw [hquote, ofLine_ofLine hfits]
        unfold Statement.pinned
        rw [dropVersionArguments_dropVersionArguments]
        rfl
      · refine unpin_eq_ok_iff.2 ⟨_, _, _, hs', ?_⟩
        rw [hasVersionArgument_dropVersionArguments]
        rfl
    | false =>
      refine .inr ⟨.ofLine t i s.unpinned, ?_, hunpin₁, ?_⟩
      · refine unpin_eq_ok_iff.2 ⟨_, _, _, hs, ?_⟩
        rw [hv]
        rfl
      · have hline : s.unpinned = line := by
          rw [Statement.unpinned, dropVersionArguments_of_hasVersionArgument hv,
            hs.isOn.head_append_rest]
        rw [hline]
        exact LineBuffer.replace_self hs.line_eq

/-- A gem with a constraint and a comment, pinned twice. -/
theorem pin_unpin_laws_commented :
    ∃ r₁ r₂, pin "gem 'rack', '~> 1.0' # web\n".toList .gemfile "rack".toList "2.0".toList
        ⟨none, .double, []⟩ = .ok r₁ ∧
      r₁.text = "gem 'rack', '2.0' # web\n".toList ∧
      pin "gem 'rack', '~> 1.0' # web\n".toList .gemfile "rack".toList "3.0".toList
        ⟨none, .double, []⟩ = .ok r₂ ∧
      pin r₁.text .gemfile "rack".toList "3.0".toList ⟨none, .double, []⟩ = .ok r₂ := by
  have hd : declarationToEdit .gemfile "gem 'rack', '~> 1.0' # web\n".toList "rack".toList =
      .ok (0, "gem 'rack', '~> 1.0' # web".toList, ⟨[], "gem ".toList, none, .single,
        "rack".toList, ", '~> 1.0' # web".toList, false, false⟩) := by decide
  have hdrop : dropVersionArguments ", '~> 1.0' # web".toList = " # web".toList :=
    (dropVersionArguments_of_some
      (dropVersionArgument?_constraint .single "~> 1.0".toList (by decide))).trans
        (dropVersionArguments_of_none (by decide))
  have hpin : pin "gem 'rack', '~> 1.0' # web\n".toList .gemfile "rack".toList "2.0".toList
      ⟨none, .double, []⟩ = .ok ⟨"gem 'rack', '2.0' # web\n".toList, 0, 1⟩ := by
    refine pin_eq_ok_iff.2 ⟨_, _, _, declarationToEdit_eq_ok_iff.1 hd, ?_⟩
    rw [Statement.pinned, hdrop]
    decide
  have hlaws := pin_unpin_laws "3.0".toList rfl (by decide) hpin (by
    intro i line s h
    rw [hd] at h
    cases h
    decide)
  obtain ⟨⟨r₂, hr₂, hr₁⟩, -⟩ := hlaws
  exact ⟨_, r₂, hpin, rfl, hr₂, hr₁⟩

end GemDeps
