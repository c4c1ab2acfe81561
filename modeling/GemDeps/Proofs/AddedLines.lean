import GemDeps.Proofs.Spans
import GemDeps.Revision.Addition

/-!
# The lines that are added

Where a gem or a dependency goes depends on the whole text, what is written for it does not: for a
gem its statement, alone or in a block of its own (`GemLines`), for a dependency its statement,
possibly behind an empty line (`DependencyLines`).
-/

namespace GemDeps

theorem trailingBlankStart_le (t : Text) :
    (LineBuffer.ofText t).trailingBlankStart ≤ (Text.pieces t).length := by
  rw [LineBuffer.trailingBlankStart, LineBuffer.contents_ofText, ← length_lines]
  simpa using (List.dropWhile_sublist (l := (Text.lines t).reverse) _).length_le

theorem isReceiver_getD {w : Option Text} (h : ∀ u, w = some u → IsReceiver u) :
    IsReceiver (w.getD defaultReceiver) := by
  cases w with
  | none => exact ⟨'s', "pec".toList, rfl, by decide, List.all_eq_true.1 (by decide)⟩
  | some u => exact h u rfl

/-- The blanks in front of a line of a text. -/
structure IsMargin (b : Text) : Prop where
  isBlanks : Text.IsBlanks b
  newline : '\n' ∉ b

theorem isMargin_indentation {t l : Text} (h : l ∈ Text.lines t) :
    IsMargin (Text.indentation l) :=
  ⟨Text.isBlanks_indentation l, newline_notMem_indentation (newline_notMem_of_mem_lines h)⟩

variable {t name : Text} {o : DeclarationOptions} {style : Style} {r : Revision}

/-! ## New names -/

theorem not_isSome_of_addDeclaration (h : addDeclaration t name o style = .ok r) :
    ¬ (declarationLine? .gemfile t name).isSome = true := by
  intro hsome
  rw [addDeclaration, if_pos hsome] at h
  cases h

theorem not_isSome_of_addDependency (h : addDependency t name o style = .ok r) :
    ¬ (declarationLine? .gemspec t name).isSome = true := by
  intro hsome
  rw [addDependency, if_pos hsome] at h
  cases h

/-! ## What is written -/

/-- What holds of an empty line holds of the line that is written apart from others, if it is. -/
theorem forall_mem_apart {P : Text → Prop} (hempty : P []) (apart : Bool) :
    ∀ k ∈ (if apart then [[]] else ([] : List Text)), P k := by
  cases apart with
  | false => exact List.forall_mem_nil _
  | true => exact List.forall_mem_singleton.2 hempty

/-- The lines written for a gem: at the end of the file, inside a block, or in a new block. -/
inductive GemLines (name : Text) (o : DeclarationOptions) (indent : Text) : List Text → Prop
  | atEnd (q : QuoteStyle) : GemLines name o indent [gemStatement name o q]
  | inside (margin : Text) (q : QuoteStyle) (hmargin : IsMargin margin) :
      GemLines name o indent [margin ++ indent ++ gemStatement name o q]
  | block (apart : Bool) (q : QuoteStyle) (hgroups : o.groups ≠ []) :
      GemLines name o indent (newBlock apart o.groups indent (gemStatement name o q) q)

theorem exists_gemLines (h : addDeclaration t name o style = .ok r) :
    ∃ i new, i ≤ (Text.pieces t).length ∧ GemLines name o style.indent new ∧
      r = .ofInsertion t i new := by
  unfold addDeclaration at h
  split at h
  · simp at h
  · split at h
    · rename_i span hspan
      obtain rfl := Except.ok.inj h
      obtain ⟨-, hspan⟩ := Option.ite_none_left_eq_some.1 hspan
      obtain ⟨-, hlt, -⟩ := GroupSpan.of_find? hspan
      obtain ⟨line, hline, -, -, -, hindent⟩ := GroupSpan.exists_line hspan
      rw [length_lines] at hlt
      refine ⟨_, _, Nat.le_of_lt hlt, .inside span.indent _ ?_, rfl⟩
      rw [hindent]
      exact isMargin_indentation (List.mem_of_getElem? hline)
    · obtain rfl := Except.ok.inj h
      refine ⟨_, _, trailingBlankStart_le t, ?_, rfl⟩
      split
      · exact .atEnd _
      · rename_i hgroups
        exact .block _ _ (by simpa using hgroups)

/-- The lines written for a dependency: behind another one, or in the specification block. -/
inductive DependencyLines (name : Text) (o : DeclarationOptions) (indent : Text) :
    List Text → Prop
  | behind (margin receiver : Text) (q : QuoteStyle) (hmargin : IsMargin margin)
      (hreceiver : IsReceiver receiver) :
      DependencyLines name o indent [margin ++ dependencyStatement receiver name o q]
  | inside (apart : Bool) (margin receiver : Text) (q : QuoteStyle) (hmargin : IsMargin margin)
      (hreceiver : IsReceiver receiver) :
      DependencyLines name o indent ((if apart then [[]] else []) ++
        [margin ++ indent ++ dependencyStatement receiver name o q])

theorem exists_dependencyLines (h : addDependency t name o style = .ok r) :
    ∃ i new, i ≤ (Text.pieces t).length ∧ DependencyLines name o style.indent new ∧
      r = .ofInsertion t i new := by
  unfold addDependency at h
  split at h
  · simp at h
  · dsimp only at h
    split at h
    · rename_i last hlast
      obtain rfl := Except.ok.inj h
      obtain ⟨l, s, hl, hs⟩ := lastDeclarationLine?_eq_some hlast
      have hlt := (List.getElem?_eq_some_iff.1 hl).1
      rw [length_lines] at hlt
      change Statement.readDependency? l = some s at hs
      obtain ⟨hindent, w, hw, hreceiver⟩ := exists_receiver hs
      refine ⟨_, _, hlt, ?_, rfl⟩
      simp only [LineBuffer.content_ofText hl, hs, Option.map_some, Option.getD_some,
        Option.bind_some, hw, hindent]
      exact .behind _ _ _ (isMargin_indentation (List.mem_of_getElem? hl)) hreceiver
    · rename_i stop hlast hstop
      obtain rfl := Except.ok.inj h
      obtain ⟨hlt, hblanks, hnewline, hreceiver⟩ := SpecificationSpan.of_find t
      have hlt := hlt stop hstop
      rw [length_lines] at hlt
      exact ⟨_, _, Nat.le_of_lt hlt,
        .inside _ _ _ _ ⟨hblanks, hnewline⟩ (isReceiver_getD hreceiver), rfl⟩
    · simp at h

end GemDeps
