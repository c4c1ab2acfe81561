import GemDeps.Proofs.InsertedLines
import GemDeps.Proofs.WrittenStatements

/-!
# Versions and lines

A version that passes its check may have line feeds between its own operator and its number, and it
is written with them. A pin then adds as many lines (`length_pieces_pin`), and an addition spreads
its statement over several lines; when the version has none, a pin rewrites one line and an addition
writes one line for each of its items (`version_lines_iff`).
-/

namespace GemDeps

/-! ## Counting lines -/

namespace Text

theorem length_pieces_append_newline (s t : Text) :
    (pieces (s ++ '\n' :: t)).length = s.count '\n' + 1 + (pieces t).length := by
  induction s using line_induction with
  | last l hl =>
    rw [pieces_append_newline hl, List.length_cons, List.count_eq_zero.2 hl]
    omega
  | line l s hl ih =>
    rw [List.append_assoc, List.cons_append, pieces_append_newline hl, List.length_cons, ih,
      List.count_append, List.count_eq_zero.2 hl, List.count_cons_self]
    omega

theorem length_pieces_append_isOpen {l : Text} (hl : IsOpen l) (s : Text) :
    (pieces (s ++ l)).length = s.count '\n' + 1 := by
  induction s using line_induction with
  | last k hk =>
    have hopen : IsOpen (k ++ l) :=
      ⟨List.append_ne_nil_of_right_ne_nil k hl.1, by simp [hk, hl.2]⟩
    rw [pieces_of_isOpen hopen, List.count_eq_zero.2 hk]
    rfl
  | line k s hk ih =>
    rw [List.append_assoc, List.cons_append, pieces_append_newline hk, List.length_cons, ih,
      List.count_append, List.count_eq_zero.2 hk, List.count_cons_self]
    omega

theorem length_pieces_append_lineEnd {e : LineEnd} (he : e ≠ .open) (s t : Text) :
    (pieces (s ++ e.text ++ t)).length = s.count '\n' + 1 + (pieces t).length := by
  cases e with
  | lf =>
    rw [List.append_assoc]
    exact length_pieces_append_newline s t
  | crlf =>
    have htext : s ++ LineEnd.crlf.text ++ t = s ++ ['\r'] ++ '\n' :: t := by simp [LineEnd.text]
    have hcount : (s ++ ['\r']).count '\n' = s.count '\n' := by
      rw [List.count_append]
      rfl
    rw [htext, length_pieces_append_newline, hcount]
  | «open» => exact absurd rfl he

end Text

/-- A text put on a line adds the lines that it breaks into. -/
theorem length_pieces_ofLine {t l : Text} {i : Nat} (hi : i < (Text.pieces t).length)
    (hl : Text.IsOpen l) (s : Text) :
    (Text.pieces (Revision.ofLine t i (s ++ l)).text).length =
      (Text.pieces t).length + s.count '\n' := by
  have hcut := Text.isCut_pieces t
  have hdrop := hcut.drop i
  have htext : (Revision.ofLine t i (s ++ l)).text = ((Text.pieces t).take i).flatten ++
      (s ++ l ++ (splitLineEnd (Text.pieces t)[i]).2.text ++
        ((Text.pieces t).drop (i + 1)).flatten) := by
    show ((Text.pieces t).modify i _).flatten = _
    rw [List.modify_eq_take_cons_drop hi, List.flatten_append, List.flatten_cons,
      List.append_assoc]
  have hcount : (s ++ l).count '\n' = s.count '\n' := by
    rw [List.count_append, List.count_eq_zero.2 hl.2, Nat.add_zero]
  rw [htext, Text.pieces_flatten_append (hcut.isFull_of_mem_take hi), List.length_append,
    List.length_take, Nat.min_eq_left (Nat.le_of_lt hi)]
  rw [List.drop_eq_getElem_cons hi] at hdrop
  rcases hdrop with ⟨hfull, hrest⟩ | ⟨hopen, hrest⟩
  · rw [Text.length_pieces_append_lineEnd (splitLineEnd_ne_open hfull), hcount,
      Text.pieces_flatten hrest, List.length_drop]
    omega
  · have hlast := congrArg List.length hrest
    rw [List.length_drop, List.length_nil] at hlast
    rw [hrest, splitLineEnd_of_isOpen hopen]
    show i + (Text.pieces (s ++ l ++ [] ++ [])).length = _
    rw [List.append_nil, List.append_nil, Text.length_pieces_append_isOpen hl]
    omega

/-! ## Line feeds in versions -/

theorem count_newline_escape (q : QuoteStyle) (t : Text) :
    (q.escape t).count '\n' = t.count '\n' := by
  induction t with
  | nil => rfl
  | cons c t ih =>
    rw [QuoteStyle.escape]
    split
    · rw [List.count_cons_of_ne (by decide), List.count_cons, List.count_cons, ih]
    · rw [List.count_cons, List.count_cons, ih]

theorem QuoteStyle.mark_ne_newline (q : QuoteStyle) : q.mark ≠ '\n' := by
  cases q <;> decide

theorem count_newline_wrap (q : QuoteStyle) (t : Text) :
    (q.wrap t).count '\n' = t.count '\n' := by
  rw [QuoteStyle.wrap, List.count_cons_of_ne q.mark_ne_newline, List.count_append,
    count_newline_escape, List.count_cons_of_ne q.mark_ne_newline]
  rfl

/-- A constraint has the line feeds of its version without the blanks at its ends. -/
theorem count_newline_versionConstraint (v : Text) (op : Option Operator) :
    (versionConstraint v op).count '\n' = v.trim.count '\n' := by
  cases op with
  | none => rfl
  | some op =>
    have hop : op.text.count '\n' = 0 := by cases op <;> decide
    rw [versionConstraint, List.count_append, hop, List.count_cons_of_ne (by decide), Nat.zero_add]

theorem newline_mem_versionConstraint_iff {v : Text} {op : Option Operator} :
    '\n' ∈ versionConstraint v op ↔ '\n' ∈ v.trim := by
  rw [← List.count_pos_iff, count_newline_versionConstraint, List.count_pos_iff]

/-- A checked version has line feeds between an operator of its own and its number, if at all. -/
theorem newline_mem_version_iff {v : Text} {op : Option Operator}
    (h : checkVersion v op = .ok ()) : '\n' ∈ v.trim ↔ op = none ∧
      ∃ own ∈ ownOperators, ∃ b n, v.trim = own ++ (b ++ n) ∧ Text.IsBlanks b ∧ '\n' ∈ b ∧
        isVersion n = true := by
  constructor
  · intro hmem
    obtain ⟨own, hown⟩ := exists_ownOperator?_of_checkVersion h
    have hversion : ∀ {n}, isVersion n = true → '\n' ∉ n := fun hn =>
      not_mem_of_class (isVersionChar_of_isVersion hn).2 (by decide)
    rcases ownOperator?_cases hown with ⟨-, hv⟩ | ⟨o, b, n, rfl, ho, hb, hn, hv⟩
    · exact absurd hmem (hversion hv)
    · have hoperators : ∀ o ∈ ownOperators, '\n' ∉ o := by decide
      refine ⟨?_, o, ho, b, n, hv, hb, ?_, hn⟩
      · cases op with
        | none => rfl
        | some op =>
          -- An operator beside the own one is refused.
          unfold checkVersion at h
          rw [hown] at h
          cases h
      · rw [hv, List.mem_append, List.mem_append] at hmem
        exact (hmem.resolve_left (hoperators o ho)).resolve_right (hversion hn)
  · rintro ⟨-, own, -, b, n, hv, -, hb, -⟩
    rw [hv, List.mem_append, List.mem_append]
    exact .inr (.inl hb)

/-! ## Pinned lines -/

section Pinning

variable {kind : Kind} {t name constraint : Text} {style : Style} {r : Revision}
  (h : pin t kind name constraint style = .ok r)

include h

theorem declarationLine?_pin : declarationLine? kind t name = some r.firstLine := by
  obtain ⟨i, line, s, hs, rfl⟩ := pin_eq_ok_iff.1 h
  exact hs.found

/-- A pin adds a line for each line feed in the constraint. -/
theorem length_pieces_pin :
    (Text.pieces r.text).length = (Text.pieces t).length + constraint.count '\n' := by
  obtain ⟨i, line, s, hs, rfl⟩ := pin_eq_ok_iff.1 h
  generalize style.quote.getD s.quote = q
  have hdropped : '\n' ∉ dropVersionArguments s.rest := by
    obtain ⟨k, -, hline⟩ := hs.exists_prefix
    have hnew := hs.newline_notMem
    rw [hline, List.mem_append, not_or] at hnew
    exact hnew.2
  have hopen : Text.IsOpen (q.mark :: dropVersionArguments s.rest) := by
    refine ⟨List.cons_ne_nil _ _, ?_⟩
    rw [List.mem_cons, not_or]
    exact ⟨q.mark_ne_newline.symm, hdropped⟩
  have hline : s.pinned constraint q =
      s.headIn q ++ ", ".toList ++ q.mark :: q.escape constraint ++
        q.mark :: dropVersionArguments s.rest := by
    simp [Statement.pinned, QuoteStyle.wrap]
  have hcount : (s.headIn q ++ ", ".toList ++ q.mark :: q.escape constraint).count '\n' =
      constraint.count '\n' := by
    rw [List.count_append, List.count_append,
      List.count_eq_zero.2 (hs.newline_notMem_headIn q), List.count_cons_of_ne q.mark_ne_newline,
      count_newline_escape]
    exact Nat.zero_add _
  rw [hline, length_pieces_ofLine hs.lt_length hopen, hcount]

/-- A pin rewrites one line when its constraint has no line feed, and never otherwise. -/
theorem rewrites_pin_iff : Rewrites r.firstLine (Text.pieces t) (Text.pieces r.text) ↔
    '\n' ∉ constraint := by
  constructor
  · intro hrewrites
    have hlength := hrewrites.length_eq
    rw [length_pieces_pin h] at hlength
    exact List.count_eq_zero.1 (by omega)
  · intro hconstraint
    exact (rewritesLineOf_pin hconstraint h).2

end Pinning

/-! ## Written lines -/

/-- The lines of a revision that it wrote, by its own account. -/
def Revision.writtenLines (r : Revision) : List Text :=
  ((Text.lines r.text).drop r.firstLine).take (r.endLine - r.firstLine)

/-- The lines that were inserted are those that were meant when none of them has a line feed. -/
theorem writtenLines_ofInsertion_iff {t : Text} {i : Nat} {new : List Text}
    (hi : i ≤ (Text.pieces t).length) (hends : PlainEnds new) :
    (Revision.ofInsertion t i new).writtenLines = new ↔ ∀ k ∈ new, '\n' ∉ k := by
  have hlength : (Revision.ofInsertion t i new).endLine - i = new.length :=
    Nat.add_sub_cancel_left i _
  show ((Text.lines _).drop i).take (_ - i) = _ ↔ _
  rw [hlength]
  constructor
  · intro hwritten k hk
    rw [← hwritten] at hk
    exact newline_notMem_of_mem_lines (List.mem_of_mem_drop (List.mem_of_mem_take hk))
  · intro hline
    rw [← length_lines] at hi
    obtain ⟨kept, hkept, -, hlines⟩ := lines_ofInsertion hi hends hline
    have hkept := hkept.length_eq
    rw [List.length_take, Nat.min_eq_left hi] at hkept
    rw [hlines, List.append_assoc, ← hkept, List.drop_left, List.take_left]

section Adding

variable {name indent : Text} {o : DeclarationOptions} {new : List Text}

theorem mem_commaSeparated {ps : List Text} {p : Text} (hp : p ∈ ps) {c : Char} (hc : c ∈ p) :
    c ∈ commaSeparated ps := by
  cases ps with
  | nil => cases hp
  | cons q ps =>
    rw [commaSeparated_cons, List.mem_append]
    rcases List.mem_cons.1 hp with rfl | hp
    · exact .inl hc
    · exact .inr (List.mem_flatMap.2 ⟨p, hp, List.mem_append_right _ hc⟩)

/-- The statement of the gem stands on one of its lines. -/
theorem GemLines.exists_mem (h : GemLines name o indent new) :
    ∃ b q, b ++ gemStatement name o q ∈ new := by
  cases h with
  | atEnd q => exact ⟨[], q, List.mem_singleton_self _⟩
  | inside margin q => exact ⟨_, q, List.mem_singleton_self _⟩
  | block apart q =>
    exact ⟨indent, q, List.mem_append_right _ (List.mem_cons_of_mem _ List.mem_cons_self)⟩

theorem DependencyLines.exists_mem (h : DependencyLines name o indent new) :
    ∃ b receiver q, b ++ dependencyStatement receiver name o q ∈ new := by
  cases h with
  | behind margin receiver q => exact ⟨_, receiver, q, List.mem_singleton_self _⟩
  | inside apart margin receiver q =>
    exact ⟨_, receiver, q, List.mem_append_right _ (List.mem_singleton_self _)⟩

theorem GemLines.trimmed (h : GemLines name o indent new) : GemLines name o.trimmed indent new := by
  have hstatement : gemStatement name o = gemStatement name o.trimmed :=
    funext fun q => (gemStatement_trimmed name o q).symm
  cases h with
  | atEnd q =>
    rw [hstatement]
    exact .atEnd q
  | inside margin q hmargin =>
    rw [hstatement]
    exact .inside margin q hmargin
  | block apart q hgroups =>
    rw [hstatement]
    exact .block apart q hgroups

/-- A line feed in the version is written. -/
theorem newline_mem_constraint {v : Text} (hv : v ∈ o.version) (hn : '\n' ∈ v.trim)
    (q : QuoteStyle) : ∃ p ∈ o.constraint?.map q.wrap, '\n' ∈ p := by
  refine ⟨q.wrap (versionConstraint v o.operator), ?_, ?_⟩
  · rw [DeclarationOptions.constraint?, Option.mem_def.1 hv]
    rfl
  · rw [← List.count_pos_iff, count_newline_wrap, List.count_pos_iff,
      newline_mem_versionConstraint_iff]
    exact hn

theorem newline_mem_gemStatement {v : Text} (hv : v ∈ o.version) (hn : '\n' ∈ v.trim)
    (q : QuoteStyle) : '\n' ∈ gemStatement name o q := by
  obtain ⟨p, hp, hc⟩ := newline_mem_constraint hv hn q
  have hpart := List.mem_append_right ["gem ".toList ++ q.wrap name] (Option.mem_toList.2 hp)
  exact mem_commaSeparated
    (List.mem_append_left _ (List.mem_append_left _ (List.mem_append_left _ hpart))) hc

theorem newline_mem_dependencyStatement {v : Text} (hv : v ∈ o.version) (hn : '\n' ∈ v.trim)
    (receiver : Text) (q : QuoteStyle) : '\n' ∈ dependencyStatement receiver name o q := by
  obtain ⟨p, hp, hc⟩ := newline_mem_constraint hv hn q
  exact mem_commaSeparated (List.mem_append_right _ (Option.mem_toList.2 hp)) hc

/-- The lines written for a gem are lines when its version is. -/
theorem GemLines.newline_notMem_iff (h : GemLines name o indent new) (hchecked : IsChecked name o)
    (hindent : '\n' ∉ indent) : (∀ k ∈ new, '\n' ∉ k) ↔ ∀ v ∈ o.version, '\n' ∉ v.trim := by
  constructor
  · intro hnew v hv hn
    obtain ⟨b, q, hmem⟩ := h.exists_mem
    exact hnew _ hmem (List.mem_append_right b (newline_mem_gemStatement hv hn q))
  · intro hversion
    obtain ⟨hname, ho⟩ := hchecked.trimmed.newline_notMem (newline_notMem_trimmed_iff.2 hversion)
    exact h.trimmed.newline_notMem hname ho hindent

theorem DependencyLines.newline_notMem_iff (h : DependencyLines name o indent new)
    (hname : isGemName name = true) (hindent : '\n' ∉ indent) :
    (∀ k ∈ new, '\n' ∉ k) ↔ ∀ v ∈ o.version, '\n' ∉ v.trim := by
  constructor
  · intro hnew v hv hn
    obtain ⟨b, receiver, q, hmem⟩ := h.exists_mem
    exact hnew _ hmem (List.mem_append_right b (newline_mem_dependencyStatement hv hn receiver q))
  · intro hversion
    have hconstraint : ∀ c ∈ o.constraint?, '\n' ∉ c := by
      intro c hc
      obtain ⟨v, hv, rfl⟩ := Option.map_eq_some_iff.1 hc
      rw [newline_mem_versionConstraint_iff]
      exact hversion v hv
    exact h.newline_notMem (newline_notMem_of_isGemName hname) hconstraint hindent

end Adding

/-! ## Edits and their lines -/

/-- An edit keeps to its own lines exactly when the version it writes has no line feed inside: a pin
adds a line for each one and rewrites nothing but its line when there is none, and an addition
writes a line for each of the items that it renders when there is none. The checks let a version
have one between its own operator and its number. -/
theorem version_lines_iff {t name : Text} :
    (∀ kind v op style r, pin t kind name (versionConstraint v op) style = .ok r →
      declarationLine? kind t name = some r.firstLine ∧
        (Text.pieces r.text).length = (Text.pieces t).length + v.trim.count '\n' ∧
        (Rewrites r.firstLine (Text.pieces t) (Text.pieces r.text) ↔ '\n' ∉ v.trim)) ∧
      (∀ o style r, checkOptions name o = .ok () → '\n' ∉ style.indent →
        addDeclaration t name o style = .ok r →
          ∃ new, GemLines name o style.indent new ∧ r = .ofInsertion t r.firstLine new ∧
            (r.writtenLines = new ↔ ∀ v ∈ o.version, '\n' ∉ v.trim)) ∧
      (∀ o style r, checkOptions name o = .ok () → '\n' ∉ style.indent →
        addDependency t name o style = .ok r →
          ∃ new, DependencyLines name o style.indent new ∧ r = .ofInsertion t r.firstLine new ∧
            (r.writtenLines = new ↔ ∀ v ∈ o.version, '\n' ∉ v.trim)) ∧
      ∀ v op, checkVersion v op = .ok () → ('\n' ∈ v.trim ↔ op = none ∧
        ∃ own ∈ ownOperators, ∃ b n, v.trim = own ++ (b ++ n) ∧ Text.IsBlanks b ∧ '\n' ∈ b ∧
          isVersion n = true) := by
  refine ⟨?_, ?_, ?_, fun v op => newline_mem_version_iff⟩
  · intro kind v op style r h
    refine ⟨declarationLine?_pin h, ?_, ?_⟩
    · rw [length_pieces_pin h, count_newline_versionConstraint]
    · rw [rewrites_pin_iff h, newline_mem_versionConstraint_iff]
  · intro o style r hcheck hindent h
    obtain ⟨i, new, hi, hnew, rfl⟩ := exists_gemLines h
    refine ⟨new, hnew, rfl, ?_⟩
    rw [writtenLines_ofInsertion_iff hi hnew.plainEnds,
      hnew.newline_notMem_iff (isChecked_of_checkOptions hcheck) hindent]
  · intro o style r hcheck hindent h
    obtain ⟨i, new, hi, hnew, rfl⟩ := exists_dependencyLines h
    refine ⟨new, hnew, rfl, ?_⟩
    rw [writtenLines_ofInsertion_iff hi hnew.plainEnds,
      hnew.newline_notMem_iff (isChecked_of_checkOptions hcheck).name hindent]

theorem pin_newline : pin "gem 'x'\n".toList .gemfile "x".toList
    (versionConstraint "~>\n7.0".toList none) ⟨none, .single, "  ".toList⟩ =
      .ok ⟨"gem 'x', '~>\n7.0'\n".toList, 0, 1⟩ := by
  have hd : declarationToEdit .gemfile "gem 'x'\n".toList "x".toList =
      .ok (0, "gem 'x'".toList, ⟨[], "gem ".toList, none, .single, "x".toList, [], false,
        false⟩) := by decide
  have hdrop : dropVersionArguments [] = [] := dropVersionArguments_of_none (by decide)
  refine pin_eq_ok_iff.2 ⟨_, _, _, declarationToEdit_eq_ok_iff.1 hd, ?_⟩
  rw [Statement.pinned, hdrop]
  decide

/-- A checked version that makes two lines of one. -/
theorem pin_splits_line :
    checkGemName "x".toList = .ok () ∧ checkVersion "~>\n7.0".toList none = .ok () ∧
      ∃ r, pin "gem 'x'\n".toList .gemfile "x".toList
          (versionConstraint "~>\n7.0".toList none) ⟨none, .single, "  ".toList⟩ = .ok r ∧
        (Text.pieces "gem 'x'\n".toList).length = 1 ∧ (Text.pieces r.text).length = 2 :=
  ⟨by decide, by decide, _, pin_newline, by decide, by decide⟩

/-- The same pin, and two additions with a version on one line. -/
theorem version_lines_iff_operator :
    ¬ Rewrites 0 (Text.pieces "gem 'x'\n".toList) (Text.pieces "gem 'x', '~>\n7.0'\n".toList) ∧
      (∃ r, addDeclaration "gem 'x'\n".toList "y".toList
          ⟨some "~> 7.0".toList, none, [], [], none, none⟩ ⟨none, .single, "  ".toList⟩ = .ok r ∧
        GemLines "y".toList ⟨some "~> 7.0".toList, none, [], [], none, none⟩ "  ".toList
          r.writtenLines) ∧
      ∃ r, addDependency "Gem::Specification.new do |s|\nend\n".toList "y".toList
          ⟨some "~> 7.0".toList, none, [], [], none, none⟩ ⟨none, .single, "  ".toList⟩ = .ok r ∧
        DependencyLines "y".toList ⟨some "~> 7.0".toList, none, [], [], none, none⟩ "  ".toList
          r.writtenLines := by
  refine ⟨?_, ?_, ?_⟩
  · have hpin := (version_lines_iff.1 _ _ _ _ _ pin_newline).2.2
    exact fun h => hpin.1 h (by decide)
  · have hadd : addDeclaration "gem 'x'\n".toList "y".toList
        ⟨some "~> 7.0".toList, none, [], [], none, none⟩ ⟨none, .single, "  ".toList⟩ =
          .ok ⟨"gem 'x'\ngem 'y', '~> 7.0'\n".toList, 1, 2⟩ := by decide
    obtain ⟨new, hnew, -, hwritten⟩ :=
      version_lines_iff.2.1 _ _ _ (by decide) (by decide) hadd
    refine ⟨_, hadd, ?_⟩
    rw [hwritten.2 (by decide)]
    exact hnew
  · have hadd : addDependency "Gem::Specification.new do |s|\nend\n".toList "y".toList
        ⟨some "~> 7.0".toList, none, [], [], none, none⟩ ⟨none, .single, "  ".toList⟩ =
          .ok ⟨"Gem::Specification.new do |s|\n\n  s.add_dependency 'y', '~> 7.0'\nend\n".toList,
            1, 3⟩ := by decide
    obtain ⟨new, hnew, -, hwritten⟩ :=
      version_lines_iff.2.2.1 _ _ _ (by decide) (by decide) hadd
    refine ⟨_, hadd, ?_⟩
    rw [hwritten.2 (by decide)]
    exact hnew

end GemDeps
