import GemDeps.Proofs.InsertedLines
import GemDeps.Proofs.WrittenStatements

/-!
# A gem that was added

Adding a gem inserts lines that make one declaration and leave the state of the reader as it was
(`exists_insertsGem`), so the document of the new text is the old one with this declaration put
in, and with the declarations behind it moved down (`read_addDeclaration`).
-/

namespace GemDeps

open Gemfile

/-! ## Written lines -/

/-- The declaration that a written statement makes. -/
theorem Gemfile.declaration_ofGem {name : Text} {o : DeclarationOptions} (h : IsChecked name o)
    (s : State) (n : Nat) (indent : Text) (q : QuoteStyle) :
    declaration s n (.ofGem indent name o q) =
      { name
        versionRequirement := o.constraint?
        source := o.source.map q.escape <|> s.blockSource? <|> s.serverSource?
        groups := s.groups
        platforms := Text.union s.platforms o.platforms
        requireOption := o.require.map (·.escaped q)
        line := .ofNat n } := by
  have hplatforms : ∀ p ∈ o.platforms, q.escape p = p := fun p hp =>
    escape_of_isBare (isBare_of_isSymbolName (h.platforms p hp)) q
  obtain ⟨hnames, hgroups⟩ := Statement.optionNames_ofGem indent name hplatforms
  rw [declaration_eq, hnames, hgroups, Statement.requirement_ofGem,
    joinVersions_constraint q (forall_constraint_of_checkVersion h.version),
    Statement.ownSource?_ofGem indent name hplatforms,
    Statement.require_ofGem indent name hplatforms]
  rfl

namespace Gemfile

theorem readLines_singleton {l : Text} {stmt : Statement} (h : Statement.readGem? l = some stmt)
    (s : State) (n : Nat) : readLines s n [l] = ([declaration s n stmt], s) := by
  rw [readLines_cons, h, Entry.ofLine_eq_gem_iff.2 h]
  rfl

/-- A new block makes the declaration inside it and is closed behind it. -/
theorem readLines_newBlock {groups : List Text} (hne : groups ≠ [])
    (hgroups : ∀ g ∈ groups, isSymbolName g = true) {indent statement : Text} {stmt : Statement}
    (h : Statement.readGem? (indent ++ statement) = some stmt) (apart : Bool) (q : QuoteStyle)
    (s : State) (n : Nat) :
    readLines s n (newBlock apart groups indent statement q) =
      ([declaration { s with scopes := .groups (Text.union [] groups) :: s.scopes }
        (n + (if apart then 2 else 1)) stmt], s) := by
  have hopens := Entry.ofLine_of_groupOpening? (groupOpening?_groupLine q hgroups hne)
  have hgem : Statement.readGem? (groupLine groups q) = none := by
    cases hs : Statement.readGem? (groupLine groups q) with
    | none => rfl
    | some stmt =>
      rw [Entry.ofLine_eq_gem_iff.2 hs] at hopens
      cases hopens
  have hblock : ∀ n, readLines s n [groupLine groups q, indent ++ statement, "end".toList] =
      ([declaration { s with scopes := .groups (Text.union [] groups) :: s.scopes }
        (n + 1) stmt], s) := by
    intro n
    rw [readLines_cons, hgem, hopens, readLines_cons, h, Entry.ofLine_eq_gem_iff.2 h]
    rfl
  unfold newBlock
  cases apart with
  | false => exact hblock n
  | true =>
    show readLines s n ([] :: [groupLine groups q, indent ++ statement, "end".toList]) = _
    rw [readLines_cons]
    show ([] ++ (readLines s (n + 1) _).1, (readLines s (n + 1) _).2) = _
    rw [hblock]
    rfl

end Gemfile

/-! ## Where a gem goes -/

/-- The block that a gem with some groups is added to, if there is one. -/
def targetBlock? (t : Text) (groups : List Text) : Option GroupSpan :=
  if groups.isEmpty then none else GroupSpan.find? t groups

/-- Where a gem with some groups is added, and the block that is opened for it there. -/
def IsPlace (t : Text) (groups : List Text) (i : Nat) (own : List Scope) : Prop :=
  match targetBlock? t groups with
  | some span => i = span.endLine ∧ own = []
  | none => i = (LineBuffer.ofText t).trailingBlankStart ∧
      own = if groups.isEmpty then [] else [.groups (Text.union [] groups)]

/-- The lines that a revision inserts make one declaration, inside some blocks of their own, and
leave the state of the reader as it was. -/
def Revision.InsertsGem (r : Revision) (t name : Text) (o : DeclarationOptions)
    (own : List Scope) : Prop :=
  ∃ kept new k indent q, r.firstLine ≤ (Text.lines t).length ∧
    r.endLine = r.firstLine + new.length ∧ k < new.length ∧
    KeepsLines ((Text.lines t).take r.firstLine) kept ∧
    Text.lines r.text = kept ++ new ++ (Text.lines t).drop r.firstLine ∧
    ∀ s n, readLines s n new =
      ([declaration { s with scopes := own ++ s.scopes } (n + k) (.ofGem indent name o q)], s)

section Adding

variable {t name : Text} {o : DeclarationOptions} {style : Style} {r : Revision}

theorem addDeclaration_of_targetBlock? {span : GroupSpan}
    (hnew : ¬ (declarationLine? .gemfile t name).isSome = true)
    (hspan : targetBlock? t o.groups = some span) :
    addDeclaration t name o style = .ok (addToBlock t name o style span) := by
  unfold targetBlock? at hspan
  rw [addDeclaration, if_neg hnew, hspan]

theorem addDeclaration_of_targetBlock?_none
    (hnew : ¬ (declarationLine? .gemfile t name).isSome = true)
    (hspan : targetBlock? t o.groups = none) :
    addDeclaration t name o style = .ok (addAtEnd t name o style) := by
  unfold targetBlock? at hspan
  rw [addDeclaration, if_neg hnew, hspan]

variable (hcheck : checkOptions name o = .ok ()) (hversion : ∀ v ∈ o.version, '\n' ∉ v)

include hcheck hversion

theorem insertsGem_ofInsertion {indent : Text} {i : Nat} (hi : i ≤ (Text.lines t).length)
    (hblanks : Text.IsBlanks indent) (hin : '\n' ∉ indent) (q : QuoteStyle) :
    (Revision.ofInsertion t i [indent ++ gemStatement name o q]).InsertsGem t name o [] := by
  have hchecked := isChecked_of_checkOptions hcheck
  obtain ⟨hname, hstrings⟩ := hchecked.newline_notMem hversion
  have hline : '\n' ∉ indent ++ gemStatement name o q := by
    simp [hin, newline_notMem_gemStatement hname hstrings q]
  obtain ⟨kept, hkept, -, hlines⟩ := lines_ofInsertion hi
    (plainEnds_singleton ((endsPlain_gemStatement name o q).append indent))
    (List.forall_mem_singleton.2 hline)
  exact ⟨kept, _, 0, _, q, hi, rfl, Nat.zero_lt_one, hkept, hlines,
    readLines_singleton (readGem?_gemStatement hblanks hchecked.name o q)⟩

variable (hindent : Text.IsBlanks style.indent) (hnewline : '\n' ∉ style.indent)

include hindent hnewline

theorem insertsGem_addToBlock {groups : List Text} {span : GroupSpan}
    (h : GroupSpan.find? t groups = some span) :
    (addToBlock t name o style span).InsertsGem t name o [] := by
  obtain ⟨-, hlt, hin⟩ := GroupSpan.of_find? h
  obtain ⟨line, -, -, -, -, hindentation⟩ := GroupSpan.exists_line h
  have hblanks : Text.IsBlanks (span.indent ++ style.indent) := by
    rw [hindentation]
    exact List.forall_mem_append.2 ⟨Text.isBlanks_indentation line, hindent⟩
  have hnotMem : '\n' ∉ span.indent ++ style.indent := by simp [hin, hnewline]
  exact insertsGem_ofInsertion hcheck hversion (Nat.le_of_lt hlt) hblanks hnotMem _

theorem insertsGem_addAtEnd : (addAtEnd t name o style).InsertsGem t name o
    (if o.groups.isEmpty then [] else [.groups (Text.union [] o.groups)]) := by
  have hle := trailingBlankStart_le t
  rw [← length_lines] at hle
  unfold addAtEnd
  dsimp only
  generalize QuoteStyle.resolve _ _ _ = q
  by_cases hempty : o.groups.isEmpty = true
  · rw [if_pos hempty, if_pos hempty]
    exact insertsGem_ofInsertion hcheck hversion hle (List.forall_mem_nil _) List.not_mem_nil q
  · rw [if_neg hempty, if_neg hempty]
    have hchecked := isChecked_of_checkOptions hcheck
    obtain ⟨hname, hstrings⟩ := hchecked.newline_notMem hversion
    have hblock : GemLines name o style.indent (newBlock
        (0 < (LineBuffer.ofText t).trailingBlankStart) o.groups style.indent
          (gemStatement name o q) q) := .block _ q (by simpa using hempty)
    obtain ⟨kept, hkept, -, hlines⟩ :=
      lines_ofInsertion hle hblock.plainEnds (hblock.newline_notMem hname hstrings hnewline)
    refine ⟨kept, _, _, style.indent, q, hle, rfl, ?_, hkept, hlines,
      readLines_newBlock (by simpa using hempty) hchecked.groups
        (readGem?_gemStatement hindent hchecked.name o q) _ q⟩
    rw [newBlock]
    split <;> simp

/-- The lines of the new text: the inserted ones make one declaration where the gem goes. -/
theorem exists_insertsGem (h : addDeclaration t name o style = .ok r) :
    ∃ own, IsPlace t o.groups r.firstLine own ∧ r.InsertsGem t name o own := by
  have hnew := not_isSome_of_addDeclaration h
  unfold IsPlace
  cases hspan : targetBlock? t o.groups with
  | some span =>
    obtain ⟨-, hfind⟩ := Option.ite_none_left_eq_some.1 hspan
    obtain rfl := Except.ok.inj ((addDeclaration_of_targetBlock? hnew hspan).symm.trans h)
    exact ⟨[], ⟨rfl, rfl⟩, insertsGem_addToBlock hcheck hversion hindent hnewline hfind⟩
  | none =>
    obtain rfl := Except.ok.inj ((addDeclaration_of_targetBlock?_none hnew hspan).symm.trans h)
    exact ⟨_, ⟨rfl, rfl⟩, insertsGem_addAtEnd hcheck hversion hindent hnewline⟩

/-- The document of the new text: the old one with the declaration that was written put in. -/
theorem read_added (h : addDeclaration t name o style = .ok r) :
    ∃ before after own k indent q, IsPlace t o.groups r.firstLine own ∧
      k < r.endLine - r.firstLine ∧
      (Document.read .gemfile t).declarations = before ++ after ∧
      before.length = ((Text.lines t).take r.firstLine).countP declaresGem ∧
      Document.read .gemfile r.text = { Document.read .gemfile t with
        declarations := before ++
          declaration { stateAt (Text.lines t) r.firstLine with
            scopes := own ++ (stateAt (Text.lines t) r.firstLine).scopes }
            (r.firstLine + k) (.ofGem indent name o q) ::
          after.map (Declaration.moved (r.endLine - r.firstLine)) } := by
  obtain ⟨own, hplace, kept, new, k, indent, q, hi, hend, hk, hkept, hlines, hread⟩ :=
    exists_insertsGem hcheck hversion hindent hnewline h
  generalize r.firstLine = i at *
  have hn : r.endLine - i = new.length := by omega
  have hlength : 0 + ((Text.lines t).take i).length = i := by
    rw [Nat.zero_add, List.length_take, Nat.min_eq_left hi]
  have hlength' : 0 + kept.length = i := by rw [hkept.length_eq, hlength]
  have hstate : State.initial.run kept = stateAt (Text.lines t) i := by
    rw [← readLines_snd .initial 0, readLines_kept hkept, readLines_snd]
    rfl
  have hsame : (stateAt (Text.lines t) i).run new = stateAt (Text.lines t) i := by
    rw [← readLines_snd _ 0, hread]
  have hold : readLines .initial 0 (Text.lines t) =
      ((readLines .initial 0 ((Text.lines t).take i)).1 ++
        (readLines (stateAt (Text.lines t) i) i ((Text.lines t).drop i)).1,
        (readLines (stateAt (Text.lines t) i) i ((Text.lines t).drop i)).2) := by
    conv => lhs; rw [← List.take_append_drop i (Text.lines t)]
    rw [readLines_append, hlength]
    rfl
  have hnew : readLines .initial 0 (Text.lines r.text) =
      ((readLines .initial 0 ((Text.lines t).take i)).1 ++
        declaration { stateAt (Text.lines t) i with
          scopes := own ++ (stateAt (Text.lines t) i).scopes } (i + k) (.ofGem indent name o q) ::
        (readLines (stateAt (Text.lines t) i) i ((Text.lines t).drop i)).1.map
          (Declaration.moved new.length),
        (readLines (stateAt (Text.lines t) i) i ((Text.lines t).drop i)).2) := by
    rw [hlines, List.append_assoc, readLines_append, readLines_append, readLines_kept hkept, hstate,
      hlength', hsame, readLines_add, hread]
    rfl
  refine ⟨_, _, own, k, indent, q, hplace, by omega, congrArg Prod.fst hold,
    length_readLines .., ?_⟩
  have hdocument : ∀ u, Document.read .gemfile u =
      ⟨.gemfile, none, (readLines .initial 0 (Text.lines u)).2.languageVersion,
        (readLines .initial 0 (Text.lines u)).2.defaultSource,
        (readLines .initial 0 (Text.lines u)).1⟩ := fun _ => rfl
  rw [hdocument, hdocument, hold, hnew, hn]

end Adding

/-- Adding a gem puts exactly one declaration into the document, with the name, the constraint, the
source and the `require` option that were asked for, and with at least the platforms; the
declarations behind it are moved down by the lines that were inserted, and nothing else changes. -/
theorem read_addDeclaration {t name : Text} {o : DeclarationOptions} {style : Style} {r : Revision}
    (hcheck : checkOptions name o = .ok ()) (hversion : ∀ v ∈ o.version, '\n' ∉ v)
    (hsource : ∀ s ∈ o.source, ∀ c ∈ s, isBare c = true)
    (hpath : ∀ p ∈ o.require.bind RequireOption.path?, ∀ c ∈ p, isBare c = true)
    (hindent : Text.IsBlanks style.indent) (hnewline : '\n' ∉ style.indent)
    (h : addDeclaration t name o style = .ok r) :
    ∃ before after d, (Document.read .gemfile t).declarations = before ++ after ∧
      before.length = ((Text.lines t).take r.firstLine).countP declaresGem ∧
      Document.read .gemfile r.text = { Document.read .gemfile t with
        declarations := before ++ d :: after.map (Declaration.moved (r.endLine - r.firstLine)) } ∧
      d.name = name ∧ d.versionRequirement = o.constraint? ∧ d.requireOption = o.require ∧
      (∀ s ∈ o.source, d.source = some s) ∧ (∀ p ∈ o.platforms, p ∈ d.platforms) ∧
      ∃ n, r.firstLine ≤ n ∧ n < r.endLine ∧ d.line = .ofNat n := by
  obtain ⟨before, after, own, k, indent, q, -, hk, hold, hcount, hread⟩ :=
    read_added hcheck hversion hindent hnewline h
  rw [declaration_ofGem (isChecked_of_checkOptions hcheck)] at hread
  refine ⟨before, after, _, hold, hcount, hread, rfl, rfl, ?_, ?_, ?_, ?_⟩
  · cases hr : o.require with
    | none => rfl
    | some require =>
      cases require with
      | disabled => rfl
      | path p =>
        have hbare := hpath p (by rw [hr]; rfl)
        show some (RequireOption.path (q.escape p)) = _
        rw [escape_of_isBare hbare]
  · intro s hs
    obtain hs := Option.mem_def.1 hs
    dsimp only
    rw [hs, Option.map_some, escape_of_isBare (hsource s hs)]
    rfl
  · intro p hp
    exact Text.mem_union.2 (.inr hp)
  · exact ⟨r.firstLine + k, Nat.le_add_right _ _, by omega, rfl⟩

theorem read_addDeclaration_options :
    ∃ r d, ∃ before after : List Declaration, addDeclaration "gem 'a'\n".toList "x".toList
        ⟨some "1.0".toList, some .pessimistic, [], ["jruby".toList], none, some .disabled⟩
        ⟨none, .double, "  ".toList⟩ = .ok r ∧
      r.text = "gem 'a'\ngem 'x', '~> 1.0', platforms: :jruby, require: false\n".toList ∧
      (Document.read .gemfile r.text).declarations =
        before ++ d :: after.map (Declaration.moved 1) ∧
      d.name = "x".toList ∧ d.versionRequirement = some "~> 1.0".toList ∧
      d.requireOption = some .disabled := by
  have hadd : addDeclaration "gem 'a'\n".toList "x".toList
      ⟨some "1.0".toList, some .pessimistic, [], ["jruby".toList], none, some .disabled⟩
      ⟨none, .double, "  ".toList⟩ =
        .ok ⟨"gem 'a'\ngem 'x', '~> 1.0', platforms: :jruby, require: false\n".toList, 1, 2⟩ := by
    decide
  obtain ⟨before, after, d, -, -, hread, hname, hversion, hrequire, -⟩ :=
    read_addDeclaration (by decide) (by decide) (by simp) (by simp [RequireOption.path?])
      (by simp [Text.IsBlanks]; decide) (by decide) hadd
  exact ⟨_, d, before, after, hadd, rfl, by rw [hread]; rfl, hname, hversion, hrequire⟩

end GemDeps
