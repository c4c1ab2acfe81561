import GemDeps.Proofs.DeclaredNames
import GemDeps.Proofs.WrittenStatements

/-!
# What edits declare

Pinning and unpinning write a line that declares the name it declared before. Adding writes lines
that declare one name, which was not declared before; the other lines of a new block declare
nothing and mark no gemspec. So every edit keeps the declared names in their order, adds one new
name at most, and leaves the kind of its file as it was (`KeepsNames`).
-/

namespace GemDeps

/-- All names stay declared, in their order, and one name at most is new. A gemspec may get marks of
one; otherwise the content tells the kind of its file as before. -/
structure KeepsNames (kind : Kind) (t u : Text) : Prop where
  names : (Document.read kind u).names = (Document.read kind t).names ∨
    ∃ before after name, (Document.read kind t).names = before ++ after ∧
      (Document.read kind u).names = before ++ name :: after ∧ name ∉ before ++ after
  sniff : Kind.sniff u = Kind.sniff t ∨ kind = .gemspec ∧ Kind.sniff u = .gemspec

namespace KeepsNames

variable {kind : Kind} {t u : Text}

theorem refl (kind : Kind) (t : Text) : KeepsNames kind t t := ⟨.inl rfl, .inl rfl⟩

theorem sublist (h : KeepsNames kind t u) :
    (Document.read kind t).names.Sublist (Document.read kind u).names := by
  rcases h.names with hsame | ⟨before, after, name, ht, hu, -⟩
  · rw [hsame]
  · rw [ht, hu]
    exact (List.sublist_cons_self name after).append_left before

theorem count_le (h : KeepsNames kind t u) (n : Text) :
    (Document.read kind u).names.count n ≤ max 1 ((Document.read kind t).names.count n) := by
  rcases h.names with hsame | ⟨before, after, name, ht, hu, hnew⟩
  · rw [hsame]
    exact Nat.le_max_right _ _
  · rw [ht, hu]
    by_cases hn : name = n
    · have hnone : (before ++ after).count n = 0 := List.count_eq_zero.2 (hn ▸ hnew)
      rw [List.count_append] at hnone
      rw [List.count_append, hn, List.count_cons_self]
      omega
    · rw [List.count_append, List.count_append, List.count_cons_of_ne hn]
      exact Nat.le_max_right _ _

/-- A file whose names are kept is of the kind it was of. -/
theorem resolve_eq {p : Path} (h : KeepsNames (Kind.resolve p t none) t u) :
    Kind.resolve p u none = Kind.resolve p t none := by
  have hsniff := h.sniff
  unfold Kind.resolve at hsniff ⊢
  cases hdetect : Kind.detect? p with
  | some kind => rfl
  | none =>
    rw [hdetect] at hsniff
    rcases hsniff with hsame | ⟨ht, hu⟩
    · exact hsame
    · exact hu.trans ht.symm

end KeepsNames

/-! ## One line in place of another -/

theorem Kind.sniff_congr {t u : Text} (h : Text.scan markOn? u = Text.scan markOn? t) :
    Kind.sniff u = Kind.sniff t := by
  have hiff : Kind.sniff u = .gemspec ↔ Kind.sniff t = .gemspec := by
    rw [Kind.sniff_eq_gemspec_iff, Kind.sniff_eq_gemspec_iff, h]
  cases hu : Kind.sniff u <;> cases ht : Kind.sniff t <;> simp_all

theorem keepsNames_ofLine {kind : Kind} {t l line : Text} {i : Nat} {s s' : Statement}
    (hl : FitsLine t i l) (hline : (Text.lines t)[i]? = some line)
    (hs : Statement.read? kind line = some s) (hs' : Statement.read? kind l = some s')
    (hname : s'.name = s.name) : KeepsNames kind t (Revision.ofLine t i l).text where
  names := by
    refine .inl ?_
    rw [Document.names_read, Document.names_read]
    refine scan_ofLine (ignoresBlanks_nameOn? kind) hl hline ?_
    rw [nameOn?_of_read? hs, nameOn?_of_read? hs', hname]
  sniff := .inl <| Kind.sniff_congr <|
    scan_ofLine ignoresBlanks_markOn? hl hline (markOn?_eq_of_read? hs' hs)

theorem keepsNames_pin {kind : Kind} {t name constraint : Text} {style : Style} {r : Revision}
    (hname : isGemName name = true) (hconstraint : '\n' ∉ constraint)
    (h : pin t kind name constraint style = .ok r) : KeepsNames kind t r.text := by
  obtain ⟨i, line, s, hs, rfl⟩ := pin_eq_ok_iff.1 h
  have hescape : ∀ q : QuoteStyle, q.escape s.name = s.name := by
    rw [hs.name_eq]
    exact escape_of_isGemName hname
  obtain ⟨hfits, hpinned⟩ := hs.pinned hconstraint (.inr (hescape (style.quote.getD s.quote)))
  exact keepsNames_ofLine hfits hs.line_eq hs.isOn.read?_eq hpinned.isOn.read?_eq rfl

theorem keepsNames_unpin {kind : Kind} {t name : Text} {r : Revision}
    (h : unpin t kind name = .ok (some r)) : KeepsNames kind t r.text := by
  obtain ⟨i, line, s, hs, hr⟩ := unpin_eq_ok_iff.1 h
  obtain ⟨-, hr⟩ := Option.ite_none_right_eq_some.1 hr.symm
  obtain rfl := Option.some.inj hr
  obtain ⟨hfits, hunpinned⟩ := hs.unpinned
  exact keepsNames_ofLine hfits hs.line_eq hs.isOn.read?_eq hunpinned.isOn.read?_eq rfl

/-! ## Inserted lines -/

theorem keepsNames_ofInsertion {kind : Kind} {t name : Text} {i : Nat} {new : List Text}
    (hi : i ≤ (Text.pieces t).length)
    (hnew : ¬ (declarationLine? kind t name).isSome = true)
    (hnames : new.flatMap (Text.scan (nameOn? kind)) = [name])
    (hmarks : kind = .gemspec ∨ new.flatMap (Text.scan markOn?) = []) :
    KeepsNames kind t (Revision.ofInsertion t i new).text where
  names := by
    have hbefore : (Document.read kind t).names =
        ((Text.pieces t).take i).filterMap (nameOn? kind) ++
          ((Text.pieces t).drop i).filterMap (nameOn? kind) := by
      rw [Document.names_read, ← List.filterMap_append, List.take_append_drop, Text.scan]
    refine .inr ⟨_, _, name, hbefore, ?_, ?_⟩
    · rw [Document.names_read, scan_ofInsertion (ignoresBlanks_nameOn? kind) hi, hnames,
        List.append_assoc]
      rfl
    · rwa [← hbefore, Document.mem_names_iff]
  sniff := by
    have hscan := scan_ofInsertion ignoresBlanks_markOn? hi new
    have hbefore : Text.scan markOn? t = ((Text.pieces t).take i).filterMap markOn? ++
        ((Text.pieces t).drop i).filterMap markOn? := by
      rw [← List.filterMap_append, List.take_append_drop, Text.scan]
    by_cases hnone : new.flatMap (Text.scan markOn?) = []
    · refine .inl (Kind.sniff_congr ?_)
      rw [hscan, hbefore, hnone, List.append_nil]
    · refine .inr ⟨hmarks.resolve_right hnone, Kind.sniff_eq_gemspec_iff.2 ?_⟩
      rw [hscan]
      simp [hnone]

/-- Nothing is read on the empty line that is written apart from others. -/
theorem flatMap_scan_apart {α : Type} (g : Text → Option α) (apart : Bool) :
    (if apart then [[]] else ([] : List Text)).flatMap (Text.scan g) = [] := by
  cases apart <;> rfl

/-- What is read on a line behind blanks, which may hold line feeds. -/
theorem Text.scan_blanks_line {α : Type} {g : Text → Option α} (hg : IgnoresBlanks g) {b l : Text}
    (hb : IsBlanks b) (hl : '\n' ∉ l) : scan g (b ++ l) = (g l).toList := by
  rw [scan_blanks_append hg hb, scan_line hg hl]

section Adding

variable {t name : Text} {o : DeclarationOptions} {style : Style} {r : Revision}

/-- The opening line and the last line of a block declare nothing. -/
theorem nameOn?_groupLine (groups : List Text) (q : QuoteStyle) :
    nameOn? .gemfile (groupLine groups q) = none := rfl

theorem markOn?_groupLine (groups : List Text) (q : QuoteStyle) :
    markOn? (groupLine groups q) = none := rfl

/-- What is read on the lines of a new block. -/
theorem flatMap_scan_newBlock {α : Type} {g : Text → Option α} (hg : IgnoresBlanks g)
    {groups : List Text} {indent statement : Text} (hindent : Text.IsBlanks indent)
    (hgroups : ∀ n ∈ groups, '\n' ∉ n) (hstatement : '\n' ∉ statement) (apart : Bool)
    (q : QuoteStyle) :
    (newBlock apart groups indent statement q).flatMap (Text.scan g) =
      (g (groupLine groups q)).toList ++ (g statement).toList ++ (g "end".toList).toList := by
  rw [newBlock, List.flatMap_append, flatMap_scan_apart, List.flatMap_cons, List.flatMap_cons,
    List.flatMap_singleton, Text.scan_line hg (newline_notMem_groupLine hgroups q),
    Text.scan_blanks_line hg hindent hstatement, Text.scan_line hg (by decide), List.nil_append,
    List.append_assoc]

/-- The lines written for a gem are read as its statement is. -/
theorem flatMap_scan_gemLines {α : Type} {g : Text → Option α} (hg : IgnoresBlanks g)
    (hname : '\n' ∉ name) (ho : ∀ s ∈ o.strings, '\n' ∉ s) (hindent : Text.IsBlanks style.indent)
    (hgroup : ∀ q, g (groupLine o.groups q) = none) (hend : g "end".toList = none)
    {new : List Text} (h : GemLines name o style.indent new) :
    ∃ q, new.flatMap (Text.scan g) = (g (gemStatement name o q)).toList := by
  have hline := newline_notMem_gemStatement hname ho
  have hgroups : ∀ g ∈ o.groups, '\n' ∉ g := fun g hg =>
    ho g (by simp [DeclarationOptions.strings, hg])
  cases h with
  | atEnd q =>
    refine ⟨q, ?_⟩
    rw [List.flatMap_singleton, Text.scan_line hg (hline q)]
  | inside margin q hmargin =>
    refine ⟨q, ?_⟩
    rw [List.flatMap_singleton, Text.scan_blanks_line hg
      (List.forall_mem_append.2 ⟨hmargin.isBlanks, hindent⟩) (hline q)]
  | block apart q =>
    refine ⟨q, ?_⟩
    rw [flatMap_scan_newBlock hg hindent hgroups (hline q), hgroup, hend]
    simp

theorem keepsNames_addDeclaration (hcheck : checkOptions name o = .ok ())
    (hversion : ∀ v ∈ o.version, '\n' ∉ v) (hindent : Text.IsBlanks style.indent)
    (h : addDeclaration t name o style = .ok r) : KeepsNames .gemfile t r.text := by
  have hchecked := isChecked_of_checkOptions hcheck
  obtain ⟨hname, ho⟩ := hchecked.newline_notMem hversion
  have hread : ∀ q, Statement.read? .gemfile (gemStatement name o q) =
      some (.ofGem [] name o q) := fun q =>
    readGem?_gemStatement (List.forall_mem_nil _) hchecked.name o q
  have hnew := not_isSome_of_addDeclaration h
  obtain ⟨i, new, hi, hlines, rfl⟩ := exists_gemLines h
  refine keepsNames_ofInsertion hi hnew ?_ (.inr ?_)
  · obtain ⟨q, hq⟩ := flatMap_scan_gemLines (ignoresBlanks_nameOn? .gemfile) hname ho hindent
      (nameOn?_groupLine o.groups) rfl hlines
    rw [hq, nameOn?_of_read? (hread q)]
    rfl
  · obtain ⟨q, hq⟩ := flatMap_scan_gemLines ignoresBlanks_markOn? hname ho hindent
      (markOn?_groupLine o.groups) rfl hlines
    rw [hq, markOn?_of_readGem? (hread q)]
    rfl

theorem keepsNames_addDependency (hname : isGemName name = true)
    (hversion : ∀ v ∈ o.version, '\n' ∉ v) (hindent : Text.IsBlanks style.indent)
    (h : addDependency t name o style = .ok r) : KeepsNames .gemspec t r.text := by
  have hline : ∀ receiver q, IsReceiver receiver →
      '\n' ∉ dependencyStatement receiver name o q := fun receiver q hreceiver =>
    newline_notMem_dependencyStatement (newline_notMem_of_isGemName hname)
      (newline_notMem_constraint hversion) hreceiver q
  have hread : ∀ receiver q, IsReceiver receiver →
      nameOn? .gemspec (dependencyStatement receiver name o q) = some name :=
    fun receiver q hreceiver => @nameOn?_of_read? .gemspec _ _
      (readDependency?_dependencyStatement (List.forall_mem_nil _) hname hreceiver o q)
  have hnew := not_isSome_of_addDependency h
  have hg := ignoresBlanks_nameOn? .gemspec
  obtain ⟨i, new, hi, hlines, rfl⟩ := exists_dependencyLines h
  refine keepsNames_ofInsertion hi hnew ?_ (.inl rfl)
  cases hlines with
  | behind margin receiver q hmargin hreceiver =>
    rw [List.flatMap_singleton, Text.scan_blanks_line hg hmargin.isBlanks (hline _ q hreceiver),
      hread _ q hreceiver]
    rfl
  | inside apart margin receiver q hmargin hreceiver =>
    rw [List.flatMap_append, flatMap_scan_apart, List.flatMap_singleton,
      Text.scan_blanks_line hg (List.forall_mem_append.2 ⟨hmargin.isBlanks, hindent⟩)
        (hline _ q hreceiver), hread _ q hreceiver]
    rfl

end Adding

end GemDeps
