import GemDeps.Proofs.AddedGem
import GemDeps.Proofs.OpenBlocks

/-!
# The scope of an added gem

A gem that is added at the end of a file, alone or in a new block, is read back in its groups and on
its platforms. A gem that is added to a block of its groups is scoped by the blocks around that
block as well, so it is read back as it was asked for exactly when these name no other groups and
platforms (`scope_addDeclaration`).
-/

namespace GemDeps

/-- The gem is reported in these groups and on these platforms, and in no others. -/
def Declaration.HasScope (d : Declaration) (groups platforms : List Text) : Prop :=
  (∀ g, g ∈ d.groups ↔ g ∈ groups) ∧ ∀ p, p ∈ d.platforms ↔ p ∈ platforms

/-- A block names no groups and platforms besides these. -/
def Scope.Within (scope : Scope) (groups platforms : List Text) : Prop :=
  (∀ g ∈ scope.groupNames, g ∈ groups) ∧ ∀ p ∈ scope.platformNames, p ∈ platforms

namespace Gemfile

theorem State.mem_groups {s : State} {g : Text} :
    g ∈ s.groups ↔ ∃ scope ∈ s.scopes, g ∈ scope.groupNames := by
  rw [groups_eq, Text.mem_union]
  simp

theorem State.mem_platforms {s : State} {p : Text} :
    p ∈ s.platforms ↔ ∃ scope ∈ s.scopes, p ∈ scope.platformNames := by
  rw [platforms_eq, Text.mem_union]
  simp

/-! ## Where the stack is empty -/

theorem ofLine_of_isBlanks {l : Text} (hl : Text.IsBlanks l) : Entry.ofLine l = .nothing := by
  have hcode : Text.trim (stripComment l) = [] := by
    have := trim_stripComment_append hl []
    rwa [List.nil_append] at this
  unfold Entry.ofLine
  dsimp only
  rw [hcode]
  rfl

theorem State.run_of_isBlanks {lines : List Text} (h : ∀ l ∈ lines, Text.IsBlanks l) (s : State) :
    s.run lines = s := by
  induction lines generalizing s with
  | nil => rfl
  | cons l ls ih =>
    obtain ⟨hl, hls⟩ := List.forall_mem_cons.1 h
    show (s.after (Entry.ofLine l)).run ls = s
    rw [ofLine_of_isBlanks hl]
    exact ih hls s

/-- In front of the blank lines at the end the state is that at the end. -/
theorem stateAt_trailingBlankStart (t : Text) :
    stateAt (Text.lines t) (LineBuffer.ofText t).trailingBlankStart =
      stateAt (Text.lines t) (Text.lines t).length := by
  obtain ⟨kept, blank, hlines, hlength, hall⟩ : ∃ kept blank, Text.lines t = kept ++ blank ∧
      (LineBuffer.ofText t).trailingBlankStart = kept.length ∧ ∀ l ∈ blank, Text.IsBlanks l := by
    rw [LineBuffer.trailingBlankStart, LineBuffer.contents_ofText]
    refine ⟨((Text.lines t).reverse.dropWhile fun l => l.all Text.isBlank).reverse,
      ((Text.lines t).reverse.takeWhile fun l => l.all Text.isBlank).reverse, ?_,
      List.length_reverse.symm, ?_⟩
    · rw [← List.reverse_append, List.takeWhile_append_dropWhile, List.reverse_reverse]
    · intro l hl
      exact List.all_eq_true.1 (List.all_eq_true.1 List.all_takeWhile l (List.mem_reverse.1 hl))
  unfold stateAt
  rw [hlength, hlines, List.take_left, List.take_length, State.run_append,
    State.run_of_isBlanks hall]

/-! ## Inside a block -/

/-- Where the end of a block is counted alike, the blocks open there are the block itself and those
open at its first line. -/
theorem scopes_of_find? {t : Text} {groups : List Text} {span : GroupSpan}
    (hshows : ∀ l ∈ Text.lines t, ShowsBlocks l) (h : GroupSpan.find? t groups = some span) :
    (stateAt (Text.lines t) span.endLine).scopes =
      .groups span.names :: (scopesOver (Text.lines t) span.startLine).reverse := by
  obtain ⟨line, hline, hnames, -, hstop, -⟩ := GroupSpan.exists_line h
  have hentry := Entry.ofLine_of_groupOpening? hnames
  have hscope : scope? (Text.lines t) span.startLine = some (.groups span.names) := by
    rw [scope?_of_getElem? hline, hentry]
  have hcloses : closesBlock (Text.lines t) span.startLine = false := by
    rw [closesBlock_of_getElem? hline, hentry]
    rfl
  obtain ⟨-, hstack⟩ := (openLines_of_matchingEnd? hshows (by rw [hscope]; rfl)).1 _ hstop
  have hmap := scopes_stateAt (Text.lines t) span.endLine
  rw [hstack, List.map_cons, hscope, ← scopes_stateAt, scopes_eq hshows hcloses,
    ← List.map_cons (f := some)] at hmap
  exact List.map_injective_iff.2 (Option.some_injective _) hmap

end Gemfile

open Gemfile

/-! ## Blocks that name nothing else -/

/-- What is reported are the groups and platforms that were asked for when the blocks name all the
groups and nothing else. -/
theorem Declaration.hasScope_iff {d : Declaration} {scopes : List Scope}
    {groups platforms : List Text}
    (hgroups : ∀ g, g ∈ d.groups ↔ ∃ scope ∈ scopes, g ∈ scope.groupNames)
    (hplatforms : ∀ p, p ∈ d.platforms ↔
      (∃ scope ∈ scopes, p ∈ scope.platformNames) ∨ p ∈ platforms) :
    d.HasScope groups platforms ↔ (∀ g ∈ groups, ∃ scope ∈ scopes, g ∈ scope.groupNames) ∧
      ∀ scope ∈ scopes, scope.Within groups platforms := by
  constructor
  · rintro ⟨hg, hp⟩
    refine ⟨fun g hmem => (hgroups g).1 ((hg g).2 hmem), fun scope hscope => ⟨?_, ?_⟩⟩
    · exact fun g hmem => (hg g).1 ((hgroups g).2 ⟨scope, hscope, hmem⟩)
    · exact fun p hmem => (hp p).1 ((hplatforms p).2 (.inl ⟨scope, hscope, hmem⟩))
  · rintro ⟨hall, hwithin⟩
    refine ⟨fun g => (hgroups g).trans ⟨?_, hall g⟩, fun p => (hplatforms p).trans ⟨?_, .inr⟩⟩
    · rintro ⟨scope, hscope, hmem⟩
      exact (hwithin scope hscope).1 g hmem
    · rintro (⟨scope, hscope, hmem⟩ | hmem)
      · exact (hwithin scope hscope).2 p hmem
      · exact hmem

/-- Inside a block of exactly the groups only the blocks around it count. -/
theorem forall_within_cons_iff {names groups platforms : List Text} {around : List Scope}
    (hnames : ∀ g, g ∈ names ↔ g ∈ groups) :
    ((∀ g ∈ groups, ∃ scope ∈ Scope.groups names :: around, g ∈ scope.groupNames) ∧
      ∀ scope ∈ Scope.groups names :: around, scope.Within groups platforms) ↔
      ∀ scope ∈ around, scope.Within groups platforms := by
  have hall : ∀ g ∈ groups, ∃ scope ∈ Scope.groups names :: around, g ∈ scope.groupNames :=
    fun g hmem => ⟨_, List.mem_cons_self, (hnames g).2 hmem⟩
  have hblock : (Scope.groups names).Within groups platforms :=
    ⟨fun g hmem => (hnames g).1 hmem, fun p hmem => absurd hmem List.not_mem_nil⟩
  rw [and_iff_right hall, List.forall_mem_cons, and_iff_right hblock]

/-! ## The name is found once -/

theorem find?_eq_none_of_addDeclaration {t name : Text} {o : DeclarationOptions} {style : Style}
    {r : Revision} (h : addDeclaration t name o style = .ok r) :
    (Document.read .gemfile t).find? name = none := by
  by_contra hfound
  exact not_isSome_of_addDeclaration h <|
    isSome_declarationLine?_iff.2 (Option.isSome_iff_ne_none.2 hfound)

/-- Blanks at the ends of the version are not written. -/
theorem addDeclaration_trimmed (t name : Text) (o : DeclarationOptions) (style : Style) :
    addDeclaration t name o.trimmed style = addDeclaration t name o style := by
  have hstatement : gemStatement name o.trimmed = gemStatement name o :=
    funext (gemStatement_trimmed name o)
  unfold addDeclaration addToBlock addAtEnd
  rw [hstatement]
  rfl

/-- The declaration that was added is the one found for the name, scoped by the blocks open where
it went and by its own. -/
theorem exists_find?_added {t name : Text} {o : DeclarationOptions} {style : Style} {r : Revision}
    (hcheck : checkOptions name o = .ok ()) (hversion : ∀ v ∈ o.version, '\n' ∉ v.trim)
    (hindent : Text.IsBlanks style.indent) (hnewline : '\n' ∉ style.indent)
    (h : addDeclaration t name o style = .ok r) :
    ∃ own d, IsPlace t o.groups r.firstLine own ∧
      (Document.read .gemfile r.text).find? name = some d ∧
      (∀ g, g ∈ d.groups ↔ ∃ scope ∈ own ++ (stateAt (Text.lines t) r.firstLine).scopes,
        g ∈ scope.groupNames) ∧
      ∀ p, p ∈ d.platforms ↔ (∃ scope ∈ own ++ (stateAt (Text.lines t) r.firstLine).scopes,
        p ∈ scope.platformNames) ∨ p ∈ o.platforms := by
  rw [← addDeclaration_trimmed] at h
  obtain ⟨before, after, own, k, indent, q, hplace, -, hold, -, hread⟩ :=
    read_added (checkOptions_trimmed hcheck) (newline_notMem_trimmed_iff.2 hversion) hindent
      hnewline h
  have hbefore : before.find? (·.name = name) = none := by
    have hnone := find?_eq_none_of_addDeclaration h
    rw [Document.find?, hold, List.find?_append] at hnone
    exact (Option.or_eq_none_iff.1 hnone).1
  rw [declaration_ofGem (isChecked_of_checkOptions hcheck).trimmed] at hread
  have hfind := congrArg (fun document => Document.find? document name) hread
  dsimp only [Document.find?] at hfind
  rw [List.find?_append, hbefore, Option.none_or, List.find?_cons_of_pos (by simp)] at hfind
  refine ⟨own, _, hplace, hfind, fun g => State.mem_groups, fun p => ?_⟩
  exact Text.mem_union.trans (or_congr_left State.mem_platforms)

/-- A gem that is added to a Gemfile at whose end no block is open is read back once, in the groups
and on the platforms that were asked for, when no block of the groups is there to add it to. When it
goes into such a block, it is read back so exactly when the blocks that the reader has open at the
end of that block name all the groups together, and no other groups and platforms; where no `gem`
and no `ruby` statement opens a block, these are that block and the blocks around it, and it depends
on the blocks around it alone. -/
theorem scope_addDeclaration {t name : Text} {o : DeclarationOptions} {style : Style}
    {r : Revision} (hend : (stateAt (Text.lines t) (Text.lines t).length).scopes = [])
    (hcheck : checkOptions name o = .ok ()) (hversion : ∀ v ∈ o.version, '\n' ∉ v.trim)
    (hindent : Text.IsBlanks style.indent) (hnewline : '\n' ∉ style.indent)
    (h : addDeclaration t name o style = .ok r) :
    ∃ d, (Document.read .gemfile r.text).find? name = some d ∧
      (targetBlock? t o.groups = none → d.HasScope o.groups o.platforms) ∧
      ∀ span, targetBlock? t o.groups = some span →
        (d.HasScope o.groups o.platforms ↔
          (∀ g ∈ o.groups, g ∈ (stateAt (Text.lines t) span.endLine).groups) ∧
            ∀ scope ∈ (stateAt (Text.lines t) span.endLine).scopes,
              scope.Within o.groups o.platforms) ∧
        ((∀ l ∈ Text.lines t, ShowsBlocks l) →
          (d.HasScope o.groups o.platforms ↔
            ∀ scope ∈ scopesOver (Text.lines t) span.startLine,
              scope.Within o.groups o.platforms)) := by
  obtain ⟨own, d, hplace, hfind, hgroups, hplatforms⟩ :=
    exists_find?_added hcheck hversion hindent hnewline h
  have hscope : d.HasScope o.groups o.platforms ↔ _ :=
    Declaration.hasScope_iff hgroups hplatforms
  unfold IsPlace at hplace
  refine ⟨d, hfind, ?_, ?_⟩
  · intro hnone
    rw [hnone] at hplace
    obtain ⟨hfirst, hown⟩ := hplace
    rw [hfirst, stateAt_trailingBlankStart, hend, List.append_nil] at hscope
    by_cases hempty : o.groups.isEmpty = true
    · rw [if_pos hempty] at hown
      rw [hscope, hown, List.isEmpty_iff.1 hempty]
      simp
    · rw [if_neg hempty] at hown
      rw [hscope, hown, forall_within_cons_iff (by simp [Text.mem_union])]
      simp
  · intro span hspan
    rw [hspan] at hplace
    obtain ⟨hfirst, rfl⟩ := hplace
    rw [hfirst, List.nil_append] at hscope
    refine ⟨hscope.trans (and_congr_left' (forall₂_congr fun g _ => State.mem_groups.symm)),
      fun hshows => ?_⟩
    obtain ⟨-, hspan⟩ := Option.ite_none_left_eq_some.1 hspan
    obtain ⟨line, -, -, hsame, -, -⟩ := GroupSpan.exists_line hspan
    have hnames : ∀ g, g ∈ span.names ↔ g ∈ o.groups := by
      obtain ⟨hnames, hrequested⟩ : (∀ g ∈ span.names, g ∈ o.groups) ∧
          ∀ g ∈ o.groups, g ∈ span.names := by simpa [GroupSpan.sameNames] using hsame
      exact fun g => ⟨hnames g, hrequested g⟩
    rw [hscope, scopes_of_find? hshows hspan, forall_within_cons_iff hnames]
    simp only [List.mem_reverse]

theorem scope_addDeclaration_newBlock :
    ∃ r d, addDeclaration "gem 'a'\n".toList "x".toList
        { DeclarationOptions.none with groups := ["test".toList], platforms := ["jruby".toList] }
        ⟨none, .double, "  ".toList⟩ = .ok r ∧
      (Document.read .gemfile r.text).find? "x".toList = some d ∧
      d.HasScope ["test".toList] ["jruby".toList] := by
  have hadd : addDeclaration "gem 'a'\n".toList "x".toList
      { DeclarationOptions.none with groups := ["test".toList], platforms := ["jruby".toList] }
      ⟨none, .double, "  ".toList⟩ = .ok
        ⟨"gem 'a'\n\ngroup :test do\n  gem 'x', platforms: :jruby\nend\n".toList, 1, 5⟩ := by
    decide
  obtain ⟨d, hfind, hscope, -⟩ := scope_addDeclaration (by decide) (by decide) (by simp
    [DeclarationOptions.none]) (List.all_eq_true.1 (by decide)) (by decide) hadd
  exact ⟨_, d, hadd, hfind, hscope (by decide)⟩

theorem find?_nestedGroup :
    GroupSpan.find? nestedGroup ["test".toList] =
      some ⟨["test".toList], 1, 3, "  ".toList⟩ := by
  have hnames : Value.nameList ":test".toList = ["test".toList] :=
    @nameList_symbols ["test".toList] .single (by decide)
  have hopening : groupOpening? "  group :test do".toList = some ["test".toList] :=
    congrArg some hnames
  have houter : GroupSpan.openedAt? (Text.lines nestedGroup) ["test".toList] 0 = none := by decide
  have hinner := @GroupSpan.openedAt?_eq_some (Text.lines nestedGroup) ["test".toList] _ _ 1 3
    (by decide) hopening (by decide) (by decide)
  have hrange : List.range (Text.lines nestedGroup).length = [0, 1, 2, 3, 4] := by decide
  rw [GroupSpan.find?, hrange, List.findSome?_cons, houter]
  dsimp only
  rw [List.findSome?_cons, hinner]
  rfl

/-- A gem for a group alone, put into the block of that group inside a block of platforms, is read
back on those platforms. -/
theorem addDeclaration_nestedGroup :
    (stateAt (Text.lines nestedGroup) (Text.lines nestedGroup).length).scopes = [] ∧
      checkOptions "x".toList { DeclarationOptions.none with groups := ["test".toList] } = .ok () ∧
      ∃ r d, addDeclaration nestedGroup "x".toList
          { DeclarationOptions.none with groups := ["test".toList] }
          ⟨none, .single, "  ".toList⟩ = .ok r ∧
        (Document.read .gemfile r.text).find? "x".toList = some d ∧
        "jruby".toList ∈ d.platforms := by
  have hcheck : checkOptions "x".toList
      { DeclarationOptions.none with groups := ["test".toList] } = .ok () := by decide
  have hadd := @addDeclaration_of_targetBlock? nestedGroup "x".toList
    { DeclarationOptions.none with groups := ["test".toList] } ⟨none, .single, "  ".toList⟩ _
    (by decide) find?_nestedGroup
  obtain ⟨own, d, -, hfind, -, hplatforms⟩ := exists_find?_added hcheck (by simp
    [DeclarationOptions.none]) (List.all_eq_true.1 (by decide)) (by decide) hadd
  have hnames : Value.nameList ":jruby".toList = ["jruby".toList] :=
    @nameList_symbols ["jruby".toList] .single (by decide)
  have hscope : Scope.platforms (Value.nameList ":jruby".toList) ∈
      (stateAt (Text.lines nestedGroup) 3).scopes := List.mem_cons_of_mem _ List.mem_cons_self
  have hmem : "jruby".toList ∈
      (Scope.platforms (Value.nameList ":jruby".toList)).platformNames := by
    rw [hnames]
    exact List.mem_cons_self
  exact ⟨rfl, hcheck, _, d, hadd, hfind,
    (hplatforms _).2 (.inl ⟨_, List.mem_append_right own hscope, hmem⟩)⟩

end GemDeps
