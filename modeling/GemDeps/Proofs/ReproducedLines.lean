import GemDeps.Proofs.AddedGem

/-!
# Writing what was read

A written `gem` statement is read with its name, its constraint, its platforms and what is loaded
and from where. Written again from these it is the same line, unless a source or a path holds a
character that needs a backslash: such a string is read with the backslashes that were written, and
they are written once more (`gemStatement_read_iff`).
-/

namespace GemDeps

/-- The options that a declaration was read with; its requirement is a version without a separate
operator. -/
def Declaration.options (d : Declaration) : DeclarationOptions :=
  { version := d.versionRequirement
    operator := none
    groups := d.groups
    platforms := d.platforms
    source := d.source
    require := d.requireOption }

/-! ## Strings that are written as they are -/

namespace QuoteStyle

variable {q : QuoteStyle} {s : Text}

/-- No character of a string needs a backslash between quotes of style `q`. -/
def WritesPlain (q : QuoteStyle) (s : Text) : Prop := ∀ c ∈ s, c ≠ q.mark ∧ c ≠ '\\'

theorem mem_escape {c : Char} (h : c ∈ s) : c ∈ q.escape s := by
  induction s with
  | nil => exact h
  | cons d s ih =>
    rw [escape]
    rcases List.mem_cons.1 h with rfl | h
    · split <;> simp
    · have := ih h
      split <;> simp [this]

theorem length_le_escape (q : QuoteStyle) (s : Text) : s.length ≤ (q.escape s).length := by
  induction s with
  | nil => exact Nat.le_refl _
  | cons d s ih =>
    rw [escape]
    split <;> simp only [List.length_cons] <;> omega

/-- A string that is written without a backslash more has nothing that needs one. -/
theorem escape_eq_self_iff : q.escape s = s ↔ q.WritesPlain s := by
  refine ⟨fun h => ?_, escape_eq_self⟩
  induction s with
  | nil => exact List.forall_mem_nil _
  | cons d s ih =>
    rw [escape] at h
    split at h
    · have hlength := congrArg List.length h
      have hle := length_le_escape q s
      simp only [List.length_cons] at hlength
      omega
    · rename_i hd
      rw [Bool.not_eq_true, Bool.or_eq_false_iff, decide_eq_false_iff_not,
        decide_eq_false_iff_not] at hd
      exact List.forall_mem_cons.2 ⟨hd, ih (List.cons.inj h).2⟩

/-- Writing a string twice adds backslashes when writing it once does. -/
theorem escape_escape_iff : q.escape (q.escape s) = q.escape s ↔ q.WritesPlain s := by
  refine ⟨fun h c hc => escape_eq_self_iff.1 h c (mem_escape hc), fun h => ?_⟩
  rw [escape_eq_self h, escape_eq_self h]

end QuoteStyle

/-! ## Reading one line -/

theorem Text.lines_of_isOpen {l : Text} (h : Text.IsOpen l) : Text.lines l = [l] := by
  rw [← map_splitLineEnd_pieces, Text.pieces_of_isOpen h, List.map_singleton,
    splitLineEnd_of_isOpen h]

section Written

variable {name : Text} {o : DeclarationOptions} (q : QuoteStyle)

/-- A written statement that stands at the start of its line. -/
theorem readGem?_gemStatement_start (hname : isGemName name = true) (o : DeclarationOptions) :
    Statement.readGem? (gemStatement name o q) = some (.ofGem [] name o q) :=
  readGem?_gemStatement (List.forall_mem_nil _ : Text.IsBlanks []) hname o q

/-- The quotes of a written statement are those that it was written with. -/
theorem detect?_gemStatement (hname : isGemName name = true) :
    QuoteStyle.detect? (gemStatement name o q) = some q := by
  rw [QuoteStyle.detect?, readGem?_gemStatement_start q hname]
  rfl

/-- The declaration that is read from a written statement alone. -/
def writtenDeclaration (name : Text) (o : DeclarationOptions) (q : QuoteStyle) : Declaration :=
  { name
    versionRequirement := o.constraint?
    source := o.source.map q.escape
    groups := []
    platforms := o.platforms
    requireOption := o.require.map (·.escaped q)
    line := 0 }

/-- A written statement alone is read as one declaration. -/
theorem read_gemStatement (h : IsChecked name o) (hversion : ∀ v ∈ o.version, '\n' ∉ v)
    (hplatforms : o.platforms.Nodup) :
    Document.read .gemfile (gemStatement name o q) =
      { Document.empty .gemfile with declarations := [writtenDeclaration name o q] } := by
  obtain ⟨hname, hstrings⟩ := h.newline_notMem hversion
  have hopen : Text.IsOpen (gemStatement name o q) :=
    ⟨by simp [gemStatement_eq], newline_notMem_gemStatement hname hstrings q⟩
  have hdeclaration : Gemfile.declaration .initial 0 (.ofGem [] name o q) =
      writtenDeclaration name o q := by
    have hunion : Text.union Gemfile.State.initial.platforms o.platforms = o.platforms := by
      show Text.union [] o.platforms = [] ++ o.platforms
      exact Text.union_of_nodup hplatforms
    have hsource : (o.source.map q.escape <|> Gemfile.State.initial.blockSource? <|>
        Gemfile.State.initial.serverSource?) = o.source.map q.escape := by
      cases o.source <;> rfl
    rw [Gemfile.declaration_ofGem h, hunion, hsource]
    rfl
  show Gemfile.read _ = _
  unfold Gemfile.read
  rw [Text.lines_of_isOpen hopen,
    Gemfile.readLines_singleton (readGem?_gemStatement_start q h.name o), hdeclaration]
  rfl

/-! ## Writing again -/

/-- The constraint that was read is written as it is. -/
theorem constraint?_writtenDeclaration (h : IsChecked name o) :
    (writtenDeclaration name o q).options.constraint? = o.constraint? := by
  show (o.constraint?.map fun c => Text.trim c) = o.constraint?
  cases hc : o.constraint? with
  | none => rfl
  | some c =>
    obtain ⟨-, -, htrim⟩ := forall_constraint_of_checkVersion h.version c hc
    rw [Option.map_some, htrim]

/-- What the strings of a statement are read as when it is written again. -/
theorem escape_of_gemStatement_eq (h : IsChecked name o)
    (heq : gemStatement name (writtenDeclaration name o q).options q = gemStatement name o q) :
    (o.source.map q.escape).map q.escape = o.source.map q.escape ∧
      (o.require.map (·.escaped q)).map (·.escaped q) = o.require.map (·.escaped q) := by
  have hplatforms : ∀ p ∈ o.platforms, q.escape p = p := fun p hp =>
    escape_of_isBare (isBare_of_isSymbolName (h.platforms p hp)) q
  have hstatement : Statement.ofGem [] name (writtenDeclaration name o q).options q =
      .ofGem [] name o q := by
    have hread := readGem?_gemStatement_start q h.name (writtenDeclaration name o q).options
    rw [heq, readGem?_gemStatement_start q h.name o] at hread
    exact (Option.some.inj hread).symm
  have hsource := Statement.ownSource?_ofGem [] name
    (o := (writtenDeclaration name o q).options) hplatforms
  have hrequire := Statement.require_ofGem [] name
    (o := (writtenDeclaration name o q).options) hplatforms
  rw [hstatement, Statement.ownSource?_ofGem [] name hplatforms] at hsource
  rw [hstatement, Statement.require_ofGem [] name hplatforms] at hrequire
  exact ⟨hsource.symm, hrequire.symm⟩

/-- A statement of a checked name and checked options, the platforms pairwise different, is read as
one declaration, in the quotes in which it was written. Written again from what was read, it is the
same line exactly when its source and its path, as far as it has them, need no backslash between
these quotes. -/
theorem gemStatement_read_iff (hcheck : checkOptions name o = .ok ())
    (hversion : ∀ v ∈ o.version, '\n' ∉ v) (hplatforms : o.platforms.Nodup) :
    ∃ d, Document.read .gemfile (gemStatement name o q) =
        { Document.empty .gemfile with declarations := [d] } ∧
      QuoteStyle.detect? (gemStatement name o q) = some q ∧
      (gemStatement d.name d.options q = gemStatement name o q ↔
        (∀ s ∈ o.source, q.WritesPlain s) ∧
          ∀ p ∈ o.require.bind RequireOption.path?, q.WritesPlain p) := by
  have hchecked := isChecked_of_checkOptions hcheck
  refine ⟨writtenDeclaration name o q, read_gemStatement q hchecked hversion hplatforms,
    detect?_gemStatement q hchecked.name, ?_⟩
  constructor
  · intro heq
    obtain ⟨hsource, hrequire⟩ := escape_of_gemStatement_eq q hchecked heq
    constructor
    · intro s hs
      rw [Option.mem_def.1 hs] at hsource
      exact QuoteStyle.escape_escape_iff.1 (Option.some.inj hsource)
    · intro p hp
      obtain ⟨r, hr, hp⟩ := Option.bind_eq_some_iff.1 hp
      cases r with
      | disabled => cases hp
      | path _ =>
        cases hp
        rw [hr] at hrequire
        exact QuoteStyle.escape_escape_iff.1 (RequireOption.path.inj (Option.some.inj hrequire))
  · rintro ⟨hsource, hpath⟩
    have hs : o.source.map q.escape = o.source := by
      cases h : o.source with
      | none => rfl
      | some s => rw [Option.map_some, escape_eq_self (hsource s h)]
    have hr : o.require.map (·.escaped q) = o.require := by
      cases h : o.require with
      | none => rfl
      | some r =>
        cases r with
        | disabled => rfl
        | path p =>
          have hp := escape_eq_self (hpath p (by rw [h]; rfl))
          show some (RequireOption.path (q.escape p)) = _
          rw [hp]
    have hparts : (writtenDeclaration name o q).options.parts q = o.parts q := by
      unfold DeclarationOptions.parts DeclarationOptions.optionParts
      rw [constraint?_writtenDeclaration q hchecked]
      show _ ++ (platformsPart o.platforms q ++ ((o.source.map q.escape).map _).toList ++
        ((o.require.map (·.escaped q)).map _).toList) = _
      rw [hs, hr]
    show gemStatement name (writtenDeclaration name o q).options q = _
    rw [gemStatement_eq, gemStatement_eq, hparts]

end Written

/-- A path with a backslash: it is read with the backslash doubled, as it was written, and written
again it has four. -/
theorem gemStatement_read_backslash :
    checkOptions "x".toList ⟨none, none, [], [], none, some (.path "a\\b".toList)⟩ = .ok () ∧
      gemStatement "x".toList ⟨none, none, [], [], none, some (.path "a\\b".toList)⟩ .single =
        "gem 'x', require: 'a\\\\b'".toList ∧
      QuoteStyle.detect? "gem 'x', require: 'a\\\\b'".toList = some .single ∧
      ∃ d, Document.read .gemfile "gem 'x', require: 'a\\\\b'".toList =
          { Document.empty .gemfile with declarations := [d] } ∧
        d.requireOption = some (.path "a\\\\b".toList) ∧
        gemStatement d.name d.options .single = "gem 'x', require: 'a\\\\\\\\b'".toList := by
  have hcheck : checkOptions "x".toList ⟨none, none, [], [], none, some (.path "a\\b".toList)⟩ =
      .ok () := by decide
  have hline : gemStatement "x".toList ⟨none, none, [], [], none, some (.path "a\\b".toList)⟩
      .single = "gem 'x', require: 'a\\\\b'".toList := by decide
  have hchecked := isChecked_of_checkOptions hcheck
  refine ⟨hcheck, hline, ?_, writtenDeclaration "x".toList
    ⟨none, none, [], [], none, some (.path "a\\b".toList)⟩ .single, ?_, ?_, ?_⟩
  · rw [← hline]
    exact detect?_gemStatement .single hchecked.name
  · rw [← hline]
    exact read_gemStatement .single hchecked (by simp) List.nodup_nil
  · decide
  · decide

/-- A double quote in a path needs no backslash between single quotes. -/
theorem gemStatement_read_iff_quote :
    ∃ d, Document.read .gemfile
          "gem 'x', '~> 1.0', platforms: [:mri, :'x-y'], require: 'a\"b'".toList =
        { Document.empty .gemfile with declarations := [d] } ∧
      QuoteStyle.detect?
          "gem 'x', '~> 1.0', platforms: [:mri, :'x-y'], require: 'a\"b'".toList = some .single ∧
      gemStatement d.name d.options .single =
        "gem 'x', '~> 1.0', platforms: [:mri, :'x-y'], require: 'a\"b'".toList := by
  have hline : gemStatement "x".toList
      ⟨some "1.0".toList, some .pessimistic, [], ["mri".toList, "x-y".toList], none,
        some (.path "a\"b".toList)⟩ .single =
      "gem 'x', '~> 1.0', platforms: [:mri, :'x-y'], require: 'a\"b'".toList := by decide
  obtain ⟨d, hread, hquotes, hagain⟩ := @gemStatement_read_iff "x".toList
    ⟨some "1.0".toList, some .pessimistic, [], ["mri".toList, "x-y".toList], none,
      some (.path "a\"b".toList)⟩ .single (by decide) (by simp) (by decide)
  rw [hline] at hread hquotes hagain
  refine ⟨d, hread, hquotes, hagain.2 ⟨by simp, ?_⟩⟩
  simp [RequireOption.path?, QuoteStyle.WritesPlain, QuoteStyle.mark]

end GemDeps
