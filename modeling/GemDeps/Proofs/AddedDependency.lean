import GemDeps.Proofs.InsertedLines
import GemDeps.Proofs.WrittenStatements

/-!
# A dependency that was added

Every line of a gemspec is read on its own, so a dependency behind all others only adds its
declaration at the end of the document (`read_inserted`), and both places where a dependency can be
added are behind all others. One of them exists unless the gemspec declares nothing and its
specification block is missing or open, and only then, or for a name that is declared already, does
adding fail (`read_addDependency`).
-/

namespace GemDeps

/-! ## Runs of the gemspec reader -/

namespace Gemspec

theorem readLines_cons (v : Option Text) (n : Nat) (l : Text) (ls : List Text) :
    readLines v n (l :: ls) =
      match Statement.readDependency? l with
      | some stmt =>
        (declaration n stmt :: (readLines v (n + 1) ls).1, (readLines v (n + 1) ls).2)
      | none => readLines ((requiredVersion? (stripComment l)).getD v) (n + 1) ls := rfl

theorem readLines_append (v : Option Text) (n : Nat) (ls ms : List Text) :
    readLines v n (ls ++ ms) =
      ((readLines v n ls).1 ++ (readLines (readLines v n ls).2 (n + ls.length) ms).1,
        (readLines (readLines v n ls).2 (n + ls.length) ms).2) := by
  induction ls generalizing v n with
  | nil => rfl
  | cons l ls ih =>
    have hlength : n + (l :: ls).length = n + 1 + ls.length := by rw [List.length_cons]; omega
    rw [List.cons_append, readLines_cons, readLines_cons, hlength]
    cases Statement.readDependency? l with
    | some stmt =>
      dsimp only
      rw [ih]
      rfl
    | none => exact ih _ _

/-- Each line that declares a dependency makes its declaration. -/
theorem readLines_fst (v : Option Text) (n : Nat) (lines : List Text) :
    (readLines v n lines).1 = (lines.zipIdx n).filterMap fun p =>
      (Statement.readDependency? p.1).map (declaration p.2) := by
  induction lines generalizing v n with
  | nil => rfl
  | cons l ls ih =>
    rw [readLines_cons, List.zipIdx_cons, List.filterMap_cons]
    cases Statement.readDependency? l with
    | some stmt =>
      dsimp only
      rw [ih]
      rfl
    | none => exact ih _ _

theorem readLines_fst_eq_nil_iff {v : Option Text} {n : Nat} {ls : List Text} :
    (readLines v n ls).1 = [] ↔ ∀ l ∈ ls, Statement.readDependency? l = none := by
  induction ls generalizing v n with
  | nil => simp [readLines]
  | cons l ls ih =>
    rw [readLines_cons, List.forall_mem_cons]
    cases Statement.readDependency? l with
    | some stmt => simp
    | none => simpa using ih

/-- The language version does not depend on the line numbers. -/
theorem readLines_snd (v : Option Text) (n m : Nat) (ls : List Text) :
    (readLines v n ls).2 = (readLines v m ls).2 := by
  induction ls generalizing v n m with
  | nil => rfl
  | cons l ls ih =>
    rw [readLines_cons, readLines_cons]
    cases Statement.readDependency? l with
    | some stmt => exact ih v (n + 1) (m + 1)
    | none => exact ih _ _ _

/-- A last line that loses a carriage return is read as it was when it declares a dependency. -/
theorem readLines_kept {old kept : List Text} (h : KeepsLines old kept)
    (hlast : kept = old ∨ ∀ l ∈ old.getLast?, (Statement.readDependency? l).isSome = true)
    (v : Option Text) (n : Nat) : readLines v n kept = readLines v n old := by
  cases h with
  | same => rfl
  | shortened ls l =>
    rcases hlast with hsame | hlast
    · rw [hsame]
    · have hread : Statement.readDependency? (l ++ ['\r']) = _ :=
        Statement.read?_append_blanks isBlanks_carriageReturn .gemspec l
      change _ = (Statement.readDependency? l).map _ at hread
      have hsome := hlast (l ++ ['\r']) List.getLast?_concat
      cases hs : Statement.readDependency? l with
      | none =>
        rw [hread, hs] at hsome
        cases hsome
      | some stmt =>
        rw [hs, Option.map_some] at hread
        have hdeclaration : ∀ k, declaration k { stmt with rest := stmt.rest ++ ['\r'] } =
            declaration k stmt := by
          intro k
          unfold declaration
          rw [Statement.splitArguments_arguments_append isBlanks_carriageReturn]
        rw [readLines_append, readLines_append, readLines_cons, readLines_cons, hs, hread]
        dsimp only
        rw [hdeclaration]

/-- A line that declares a dependency behind empty lines makes one declaration. -/
theorem readLines_behindEmpty {pre : List Text} {l : Text} {stmt : Statement}
    (hpre : ∀ p ∈ pre, p = []) (hl : Statement.readDependency? l = some stmt) (v : Option Text)
    (n : Nat) : readLines v n (pre ++ [l]) = ([declaration (n + pre.length) stmt], v) := by
  induction pre generalizing n with
  | nil =>
    rw [List.nil_append, readLines_cons, hl]
    rfl
  | cons p pre ih =>
    obtain ⟨rfl, hrest⟩ := List.forall_mem_cons.1 hpre
    have hlength : n + (([] : Text) :: pre).length = n + 1 + pre.length := by
      rw [List.length_cons]
      omega
    rw [List.cons_append, readLines_cons, hlength, ← ih hrest (n + 1)]
    rfl

end Gemspec

/-! ## A dependency behind all others -/

/-- A line that declares a dependency, inserted behind all others with empty lines in front of it,
adds its declaration at the end of the document. -/
theorem read_inserted {t u l : Text} {i : Nat} {kept pre : List Text} {stmt : Statement}
    (hlines : Text.lines u = kept ++ (pre ++ [l]) ++ (Text.lines t).drop i)
    (hlength : kept.length = i)
    (hkept : Gemspec.readLines none 0 kept = Gemspec.readLines none 0 ((Text.lines t).take i))
    (hafter : ∀ k ∈ (Text.lines t).drop i, Statement.readDependency? k = none)
    (hpre : ∀ p ∈ pre, p = []) (hl : Statement.readDependency? l = some stmt) :
    Document.read .gemspec u = { Document.read .gemspec t with
      declarations := (Document.read .gemspec t).declarations ++
        [Gemspec.declaration (i + pre.length) stmt] } := by
  have hdocument : ∀ w, Document.read .gemspec w =
      ⟨.gemspec, none, (Gemspec.readLines none 0 (Text.lines w)).2, none,
        (Gemspec.readLines none 0 (Text.lines w)).1⟩ := fun _ => rfl
  have hnone : ∀ v n, (Gemspec.readLines v n ((Text.lines t).drop i)).1 = [] := fun _ _ =>
    Gemspec.readLines_fst_eq_nil_iff.2 hafter
  have hold : Gemspec.readLines none 0 (Text.lines t) =
      ((Gemspec.readLines none 0 kept).1,
        (Gemspec.readLines (Gemspec.readLines none 0 kept).2 0 ((Text.lines t).drop i)).2) := by
    conv => lhs; rw [← List.take_append_drop i (Text.lines t)]
    rw [Gemspec.readLines_append, hkept, hnone, List.append_nil, Gemspec.readLines_snd _ _ 0]
  have hnew : Gemspec.readLines none 0 (Text.lines u) =
      ((Gemspec.readLines none 0 kept).1 ++ [Gemspec.declaration (i + pre.length) stmt],
        (Gemspec.readLines (Gemspec.readLines none 0 kept).2 0 ((Text.lines t).drop i)).2) := by
    rw [hlines, List.append_assoc, Gemspec.readLines_append, Gemspec.readLines_append,
      Gemspec.readLines_behindEmpty hpre hl, hnone, List.append_nil, Nat.zero_add, hlength]
    exact congrArg (Prod.mk _) (Gemspec.readLines_snd _ _ _ _)
  rw [hdocument, hdocument, hold, hnew]

/-- The declaration of a dependency that is added on line `n`. -/
def addedDependency (name : Text) (o : DeclarationOptions) (n : Nat) : Declaration :=
  { name
    versionRequirement := o.constraint?
    source := none
    groups := if developmentGroup ∈ o.groups then [developmentGroup] else []
    platforms := []
    requireOption := none
    line := .ofNat n }

/-- A revision adds a dependency at the end of the document, on the last line that it inserts. -/
def Revision.AddsDependency (r : Revision) (t name : Text) (o : DeclarationOptions) : Prop :=
  r.firstLine < r.endLine ∧
    Document.read .gemspec r.text = { Document.read .gemspec t with
      declarations :=
        (Document.read .gemspec t).declarations ++ [addedDependency name o (r.endLine - 1)] }

section Adding

variable {t name : Text} {o : DeclarationOptions} {style : Style} (hname : isGemName name = true)
  (hversion : ∀ v ∈ o.version, checkVersion v o.operator = .ok () ∧ '\n' ∉ v)

include hname hversion

/-- A dependency is added at the end of the document when it is written behind all others: inside
the text, or at its end behind the last of them. -/
theorem addsDependency_ofInsertion {indent receiver : Text} (pre : List Text) {i : Nat}
    (hi : i ≤ (Text.lines t).length)
    (hlast : i < (Text.lines t).length ∨
      ∀ l ∈ ((Text.lines t).take i).getLast?, (Statement.readDependency? l).isSome = true)
    (hafter : ∀ k ∈ (Text.lines t).drop i, Statement.readDependency? k = none)
    (hpre : ∀ p ∈ pre, p = []) (hindent : Text.IsBlanks indent) (hnewline : '\n' ∉ indent)
    (hreceiver : IsReceiver receiver) (q : QuoteStyle) :
    (Revision.ofInsertion t i
      (pre ++ [indent ++ dependencyStatement receiver name o q])).AddsDependency t name o := by
  have hin := newline_notMem_constraint fun v hv => (hversion v hv).2
  have hconstraint := forall_constraint_of_checkVersion fun v hv => (hversion v hv).1
  have hstatement := newline_notMem_dependencyStatement (newline_notMem_of_isGemName hname) hin
    hreceiver q
  have hends : PlainEnds (pre ++ [indent ++ dependencyStatement receiver name o q]) :=
    plainEnds_concat (fun p hp => by simp [hpre p hp])
      ((endsPlain_dependencyStatement receiver name o q).append indent)
  have hline : ∀ k ∈ pre ++ [indent ++ dependencyStatement receiver name o q], '\n' ∉ k := by
    rw [List.forall_mem_append, List.forall_mem_singleton]
    exact ⟨fun p hp => by simp [hpre p hp], by simp [hnewline, hstatement]⟩
  obtain ⟨kept, hkept, hsame, hlines⟩ := lines_ofInsertion hi hends hline
  have hlength := hkept.length_eq
  rw [List.length_take, Nat.min_eq_left hi] at hlength
  have hread := read_inserted hlines hlength
    (Gemspec.readLines_kept hkept (hlast.imp_left hsame) _ _) hafter hpre
    (readDependency?_dependencyStatement hindent hname hreceiver o q)
  have hend : (Revision.ofInsertion t i
      (pre ++ [indent ++ dependencyStatement receiver name o q])).endLine = i + pre.length + 1 := by
    show i + (pre ++ [_]).length = _
    rw [List.length_append]
    rfl
  have hdeclaration : Gemspec.declaration (i + pre.length)
      (.ofDependency indent receiver name o q) = addedDependency name o (i + pre.length) := by
    have hrequirement := requirement_ofDependency indent receiver name o q
    rw [joinVersions_constraint q hconstraint] at hrequirement
    have hdevelopment : (if o.isDevelopment = true then [developmentGroup] else []) =
        if developmentGroup ∈ o.groups then [developmentGroup] else [] :=
      if_congr DeclarationOptions.isDevelopment_iff rfl rfl
    unfold Gemspec.declaration addedDependency
    rw [show joinVersions _ = o.constraint? from hrequirement, ← hdevelopment]
    rfl
  unfold Revision.AddsDependency
  rw [hend, hread, hdeclaration, Nat.add_sub_cancel]
  exact ⟨Nat.lt_succ_of_le (Nat.le_add_right i _), rfl⟩

/-- A dependency that goes behind the last one. -/
theorem addsDependency_addAfter {last : Nat}
    (hlast : lastDeclarationLine? .gemspec t = some last) :
    (addAfter t name o style last).AddsDependency t name o := by
  obtain ⟨before, l, after, hlines, hnumber, hl, hafter⟩ := eq_append_of_lastIdx? hlast
  obtain rfl : last = before.length := by rw [hnumber, Nat.zero_add]
  have hget : (Text.lines t)[before.length]? = some l := by simp [hlines]
  obtain ⟨s, hs⟩ := Option.isSome_iff_exists.1 hl
  change Statement.readDependency? l = some s at hs
  obtain ⟨hindent, w, hw, hreceiver⟩ := exists_receiver hs
  unfold addAfter
  simp only [LineBuffer.content_ofText hget, hs, Option.map_some, Option.getD_some,
    Option.bind_some, hw, hindent]
  refine addsDependency_ofInsertion hname hversion [] ?_ (.inr ?_) ?_ (by simp)
    (Text.isBlanks_indentation l) ?_ hreceiver _
  · rw [hlines, List.length_append, List.length_cons]
    omega
  · intro k hk
    rw [hlines, List.take_length_add_append] at hk
    obtain rfl : l = k := by simpa using hk
    exact hl
  · intro k hk
    rw [hlines, List.drop_length_add_append] at hk
    exact Option.isNone_iff_eq_none.1 (Option.isSome_eq_false_iff.1 (hafter k hk))
  · exact newline_notMem_indentation (newline_notMem_of_mem_lines (List.mem_of_getElem? hget))

/-- A dependency that goes last into the specification block, when there is no other one. -/
theorem addsDependency_addToSpecification (hindent : Text.IsBlanks style.indent)
    (hnewline : '\n' ∉ style.indent) {stop : Nat}
    (hnone : ∀ l ∈ Text.lines t, Statement.readDependency? l = none)
    (hstop : (SpecificationSpan.find t).endLine = some stop) :
    (addToSpecification t name o style (SpecificationSpan.find t) stop).AddsDependency
      t name o := by
  obtain ⟨hlt, hblanks, hin, hreceiver⟩ := SpecificationSpan.of_find t
  have hlt := hlt stop hstop
  unfold addToSpecification
  dsimp only
  refine addsDependency_ofInsertion hname hversion _ (Nat.le_of_lt hlt) (.inl hlt) ?_ ?_
    (List.forall_mem_append.2 ⟨hblanks, hindent⟩) ?_ (isReceiver_getD hreceiver) _
  · exact fun k hk => hnone k (List.mem_of_mem_drop hk)
  · split <;> simp
  · simp [hin, hnewline]

end Adding

/-! ## When adding fails -/

theorem lastDependencyLine_eq_none_iff {t : Text} :
    (SpecificationSpan.find t).lastDependencyLine = none ↔
      ∀ l ∈ Text.lines t, Statement.readDependency? l = none := by
  refine lastIdx?_eq_none_iff.trans (forall₂_congr fun l _ => ?_)
  exact Option.isSome_eq_false_iff.trans Option.isNone_iff_eq_none

/-- Does a line open a specification block? -/
def opensSpecification (line : Text) : Bool := (SpecificationOpening.ofLine? line).isSome

namespace SpecificationSpan

/-- The block opens on the first line that opens one. -/
theorem opening?_map_fst (lines : List Text) :
    (opening? lines).map (·.1) = lines.findIdx? opensSpecification := by
  unfold opening?
  induction lines with
  | nil => rfl
  | cons l ls ih =>
    have hhead : (l :: ls)[0]?.bind SpecificationOpening.ofLine? =
        SpecificationOpening.ofLine? l := rfl
    have hopens : opensSpecification l = (SpecificationOpening.ofLine? l).isSome := rfl
    rw [List.length_cons, List.range_succ_eq_map, List.findSome?_cons, List.findIdx?_cons, hhead,
      hopens, ← ih]
    cases SpecificationOpening.ofLine? l with
    | some o => rfl
    | none =>
      simp [List.findSome?_map, List.map_findSome?, Function.comp_def]

theorem endLine_eq_none_iff {t : Text} :
    (find t).endLine = none ↔
      ∀ i ∈ (Text.lines t).findIdx? opensSpecification, matchingEnd? (Text.lines t) i = none := by
  rw [← opening?_map_fst]
  show (opening? (Text.lines t)).bind _ = none ↔ _
  cases opening? (Text.lines t) with
  | none => simp
  | some p => simp

end SpecificationSpan

/-- What adding a dependency gives. -/
theorem addDependency_eq (t name : Text) (o : DeclarationOptions) (style : Style) :
    addDependency t name o style =
      if ((Document.read .gemspec t).find? name).isSome then .error (.alreadyDeclared name)
      else
        match (SpecificationSpan.find t).lastDependencyLine, (SpecificationSpan.find t).endLine with
        | some last, _ => .ok (addAfter t name o style last)
        | none, some stop =>
          .ok (addToSpecification t name o style (SpecificationSpan.find t) stop)
        | none, none => .error .noSpecificationBlock := by
  unfold addDependency
  by_cases h : ((Document.read .gemspec t).find? name).isSome = true
  · exact (if_pos (isSome_declarationLine?_iff.2 h)).trans (if_pos h).symm
  · exact (if_neg (mt isSome_declarationLine?_iff.1 h)).trans (if_neg h).symm

/-- Adding a dependency fails for a name that is declared already, and else only in a gemspec that
declares nothing and has no specification block or leaves the first one open. In every other gemspec
it puts exactly one declaration at the end of the document and changes nothing else. -/
theorem read_addDependency {t name : Text} {o : DeclarationOptions} {style : Style}
    (hname : isGemName name = true)
    (hversion : ∀ v ∈ o.version, checkVersion v o.operator = .ok () ∧ '\n' ∉ v)
    (hindent : Text.IsBlanks style.indent) (hnewline : '\n' ∉ style.indent) :
    (addDependency t name o style = .error (.alreadyDeclared name) ↔
        ((Document.read .gemspec t).find? name).isSome = true) ∧
      ((Document.read .gemspec t).find? name = none →
        (addDependency t name o style = .error .noSpecificationBlock ↔
          (Document.read .gemspec t).declarations = [] ∧
            ∀ i ∈ (Text.lines t).findIdx? opensSpecification,
              matchingEnd? (Text.lines t) i = none) ∧
        (addDependency t name o style ≠ .error .noSpecificationBlock →
          ∃ r, addDependency t name o style = .ok r ∧ r.firstLine < r.endLine ∧
            Document.read .gemspec r.text = { Document.read .gemspec t with
              declarations := (Document.read .gemspec t).declarations ++
                [{ name
                   versionRequirement := o.constraint?
                   source := none
                   groups := if developmentGroup ∈ o.groups then [developmentGroup] else []
                   platforms := []
                   requireOption := none
                   line := .ofNat (r.endLine - 1) }] })) := by
  rw [addDependency_eq]
  by_cases hfind : ((Document.read .gemspec t).find? name).isSome = true
  · rw [if_pos hfind]
    refine ⟨iff_of_true rfl hfind, fun hnone => ?_⟩
    rw [hnone] at hfind
    cases hfind
  · rw [if_neg hfind]
    have hnil : (Document.read .gemspec t).declarations = [] ↔ _ :=
      Gemspec.readLines_fst_eq_nil_iff.trans lastDependencyLine_eq_none_iff.symm
    rw [hnil, ← SpecificationSpan.endLine_eq_none_iff]
    cases hlast : (SpecificationSpan.find t).lastDependencyLine with
    | some last =>
      have hadds : (addAfter t name o style last).AddsDependency t name o :=
        addsDependency_addAfter hname hversion hlast
      exact ⟨by simp [hfind], fun _ => ⟨by simp, fun _ => ⟨_, rfl, hadds⟩⟩⟩
    | none =>
      cases hstop : (SpecificationSpan.find t).endLine with
      | some stop =>
        have hadds := addsDependency_addToSpecification hname hversion hindent hnewline
          (lastDependencyLine_eq_none_iff.1 hlast) hstop
        exact ⟨by simp [hfind], fun _ => ⟨by simp, fun _ => ⟨_, rfl, hadds⟩⟩⟩
      | none => exact ⟨by simp [hfind], fun _ => ⟨by simp, fun h => absurd rfl h⟩⟩

/-- The same dependency for development and for other groups. -/
theorem read_addDependency_development :
    (∃ r, addDependency "Gem::Specification.new do |s|\nend\n".toList "rake".toList
        ⟨some "13.0".toList, some .pessimistic, ["test".toList, "development".toList], [], none,
          none⟩ ⟨none, .single, "  ".toList⟩ = .ok r ∧
      r.text = ("Gem::Specification.new do |s|\n\n" ++
        "  s.add_development_dependency 'rake', '~> 13.0'\nend\n").toList ∧
      (Document.read .gemspec r.text).declarations =
        [⟨"rake".toList, some "~> 13.0".toList, none, ["development".toList], [], none, 2⟩]) ∧
    ∃ r, addDependency "Gem::Specification.new do |s|\nend\n".toList "rake".toList
        ⟨some "13.0".toList, some .pessimistic, ["test".toList], [], none, none⟩
        ⟨none, .single, "  ".toList⟩ = .ok r ∧
      r.text = ("Gem::Specification.new do |s|\n\n" ++
        "  s.add_dependency 'rake', '~> 13.0'\nend\n").toList ∧
      (Document.read .gemspec r.text).declarations =
        [⟨"rake".toList, some "~> 13.0".toList, none, [], [], none, 2⟩] := by
  have hversion : ∀ v ∈ some "13.0".toList,
      checkVersion v (some .pessimistic) = .ok () ∧ '\n' ∉ v := by decide
  have hread := fun groups => @read_addDependency
    "Gem::Specification.new do |s|\nend\n".toList "rake".toList
    ⟨some "13.0".toList, some .pessimistic, groups, [], none, none⟩
    ⟨none, .single, "  ".toList⟩ (by decide) hversion (List.all_eq_true.1 (by decide)) (by decide)
  have hdeclarations : ∀ {groups text}, addDependency "Gem::Specification.new do |s|\nend\n".toList
      "rake".toList ⟨some "13.0".toList, some .pessimistic, groups, [], none, none⟩
      ⟨none, .single, "  ".toList⟩ = .ok ⟨text, 1, 3⟩ →
        (Document.read .gemspec text).declarations = [⟨"rake".toList, some "~> 13.0".toList, none,
          if developmentGroup ∈ groups then [developmentGroup] else [], [], none, 2⟩] := by
    intro groups text hadd
    obtain ⟨r, hr, -, hdocument⟩ := ((hread groups).2 (by decide)).2 (by rw [hadd]; simp)
    obtain rfl := Except.ok.inj (hadd.symm.trans hr)
    rw [hdocument]
    rfl
  have hdevelopment : addDependency "Gem::Specification.new do |s|\nend\n".toList "rake".toList
      ⟨some "13.0".toList, some .pessimistic, ["test".toList, "development".toList], [], none,
        none⟩ ⟨none, .single, "  ".toList⟩ =
        .ok ⟨("Gem::Specification.new do |s|\n\n" ++
          "  s.add_development_dependency 'rake', '~> 13.0'\nend\n").toList, 1, 3⟩ := by
    decide
  have htest : addDependency "Gem::Specification.new do |s|\nend\n".toList "rake".toList
      ⟨some "13.0".toList, some .pessimistic, ["test".toList], [], none, none⟩
      ⟨none, .single, "  ".toList⟩ =
        .ok ⟨("Gem::Specification.new do |s|\n\n" ++
          "  s.add_dependency 'rake', '~> 13.0'\nend\n").toList, 1, 3⟩ := by
    decide
  exact ⟨⟨_, hdevelopment, rfl, hdeclarations hdevelopment⟩, _, htest, rfl, hdeclarations htest⟩

end GemDeps
