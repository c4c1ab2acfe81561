import GemDeps.Proofs.AddedDependency
import GemDeps.Proofs.CarriedOptions

/-!
# The document after a pin

The document of a text is the same after a pin but for the requirement of one declaration, the first
with the name (`read_pin`). A reader makes a declaration of a statement and of the state in front of
its line (`IsReading`), and neither the statement that a pin writes nor the one it finds changes
that state, so every other line is read as before (`exists_read_set`).
-/

namespace GemDeps

/-! ## Readings of one line -/

/-- A way to make declarations of statements in which a statement counts only for its name, its
requirement, its options and whether it is for development. -/
structure IsReading (read : Statement → Declaration) : Prop where
  name : ∀ s, (read s).name = s.name
  congr : ∀ s s', s'.name = s.name → s'.options = s.options → s'.development = s.development →
    read s' = { read s with versionRequirement := s'.requirement }

namespace Gemfile

theorem isReading (s : State) (n : Nat) : IsReading (declaration s n) where
  name stmt := by rw [declaration_eq]
  congr stmt stmt' hname hoptions _ := by
    rw [declaration_eq, declaration_eq]
    unfold Statement.ownSource?
    rw [hname, hoptions]

theorem readLines_statement {l : Text} {stmt : Statement} (h : Statement.readGem? l = some stmt)
    (s : State) (n : Nat) (as bs : List Text) :
    readLines s n (as ++ l :: bs) =
      ((readLines s n as).1 ++ declaration (s.run as) (n + as.length) stmt ::
          (readLines (s.run as) (n + as.length + 1) bs).1,
        (readLines (s.run as) (n + as.length + 1) bs).2) := by
  rw [readLines_append, readLines_cons, h, Entry.ofLine_of_readGem? h]
  rfl

end Gemfile

namespace Gemspec

theorem isReading (n : Nat) : IsReading (declaration n) where
  name _ := rfl
  congr stmt stmt' hname _ hdevelopment := by
    unfold declaration
    rw [hname, hdevelopment]
    rfl

theorem readLines_statement {l : Text} {stmt : Statement}
    (h : Statement.readDependency? l = some stmt) (v : Option Text) (n : Nat)
    (as bs : List Text) :
    readLines v n (as ++ l :: bs) =
      ((readLines v n as).1 ++ declaration (n + as.length) stmt ::
          (readLines (readLines v n as).2 (n + as.length + 1) bs).1,
        (readLines (readLines v n as).2 (n + as.length + 1) bs).2) := by
  rw [readLines_append, readLines_cons, h]

end Gemspec

/-- A reader's declarations in front of a line come from statements in front of it. -/
theorem exists_statement_of_reported {kind : Kind} {lines : List Text} {ds : List Declaration}
    (hds : ds.map Declaration.reported = lines.zipIdx.filterMap fun p =>
      (Statement.read? kind p.1).map (Statement.reported p.2)) {d : Declaration} (hd : d ∈ ds) :
    ∃ l ∈ lines, declares kind d.name l = true := by
  have hmem := List.mem_map_of_mem (f := Declaration.reported) hd
  rw [hds] at hmem
  obtain ⟨k, l, s, hl, hs, hreported⟩ := mem_filterMap_lines.1 hmem
  exact ⟨l, List.mem_of_getElem? hl, declares_iff.2 ⟨s, hs, congrArg Prod.fst hreported⟩⟩

/-- Texts that differ in the statement on one line have documents that differ in its declaration. -/
theorem exists_read_set {kind : Kind} {t u l l' : Text} {i : Nat} {s s' : Statement}
    (hline : (Text.lines t)[i]? = some l) (hlines : Text.lines u = (Text.lines t).set i l')
    (hs : Statement.read? kind l = some s) (hs' : Statement.read? kind l' = some s') :
    ∃ read before after, IsReading read ∧
      (∀ d ∈ before, ∃ k ∈ (Text.lines t).take i, declares kind d.name k = true) ∧
      (Document.read kind t).declarations = before ++ read s :: after ∧
      Document.read kind u =
        { Document.read kind t with declarations := before ++ read s' :: after } := by
  obtain ⟨hi, hget⟩ := List.getElem?_eq_some_iff.1 hline
  have hold : Text.lines t = (Text.lines t).take i ++ l :: (Text.lines t).drop (i + 1) := by
    rw [← hget, List.getElem_cons_drop, List.take_append_drop]
  have hnew : Text.lines u = (Text.lines t).take i ++ l' :: (Text.lines t).drop (i + 1) := by
    rw [hlines, List.set_eq_take_append_cons_drop, if_pos hi]
  generalize (Text.lines t).take i = as at hold hnew
  generalize (Text.lines t).drop (i + 1) = bs at hold hnew
  cases kind with
  | gemfile =>
    refine ⟨_, _, (Gemfile.readLines (Gemfile.State.initial.run as) (0 + as.length + 1) bs).1,
      Gemfile.isReading (Gemfile.State.initial.run as) (0 + as.length),
      fun d hd => exists_statement_of_reported (reported_gemfileLines .initial 0 as) hd, ?_, ?_⟩
    · show (Gemfile.readLines .initial 0 (Text.lines t)).1 = _
      rw [hold, Gemfile.readLines_statement hs]
    · unfold Document.read Gemfile.read
      dsimp only
      rw [hold, hnew, Gemfile.readLines_statement hs, Gemfile.readLines_statement hs']
  | gemspec =>
    refine ⟨_, _,
      (Gemspec.readLines (Gemspec.readLines none 0 as).2 (0 + as.length + 1) bs).1,
      Gemspec.isReading (0 + as.length),
      fun d hd => exists_statement_of_reported (reported_gemspecLines none 0 as) hd, ?_, ?_⟩
    · show (Gemspec.readLines none 0 (Text.lines t)).1 = _
      rw [hold, Gemspec.readLines_statement hs]
    · unfold Document.read Gemspec.read
      dsimp only
      rw [hold, hnew, Gemspec.readLines_statement hs, Gemspec.readLines_statement hs']

/-! ## Pinned documents -/

/-- A pin of a name changes the requirement of the first declaration with that name, and nothing
else of the document, when a comma, a closing parenthesis or a comment comes first behind the name,
or nothing, and the line has no doubled colon. -/
theorem read_pin {kind : Kind} {t name constraint : Text} {style : Style} {r : Revision}
    (hname : isGemName name = true) (hconstraint : '\n' ∉ constraint)
    (hhead : ∀ i line s, declarationToEdit kind t name = .ok (i, line, s) →
      (∀ c ∈ (Text.trimStart s.rest).head?, c = ',' ∨ c = ')' ∨ c = '#') ∧
        ¬ "::".toList <:+: line)
    (hpin : pin t kind name constraint style = .ok r) :
    ∃ before d after requirement,
      (Document.read kind t).declarations = before ++ d :: after ∧
      d.name = name ∧ (∀ e ∈ before, e.name ≠ name) ∧
      Document.read kind r.text = { Document.read kind t with
        declarations := before ++ { d with versionRequirement := requirement } :: after } := by
  obtain ⟨i, line, s, hs, rfl⟩ := pin_eq_ok_iff.1 hpin
  obtain ⟨hrest, hcolons⟩ := hhead i line s (declarationToEdit_eq_ok_iff.2 hs)
  have hescape : (style.quote.getD s.quote).escape s.name = s.name := by
    rw [hs.name_eq]
    exact escape_of_isBare (isBare_of_isGemName hname) _
  obtain ⟨hfits, hs'⟩ := hs.pinned hconstraint (.inr hescape)
  have hlines : Text.lines (Revision.ofLine t i (s.pinned constraint
      (style.quote.getD s.quote))).text = (Text.lines t).set i _ := LineBuffer.lines_replace hfits
  obtain ⟨read, before, after, hread, hbefore, hold, hnew⟩ :=
    exists_read_set hs.line_eq hlines hs.isOn.read?_eq hs'.isOn.read?_eq
  have hoptions := Statement.options_constraint hrest
    (fun hdouble => hcolons (hdouble.trans ⟨s.head, [], by
      rw [List.append_nil, hs.isOn.head_append_rest]⟩))
    (style.quote.getD s.quote) (style.quote.getD s.quote) constraint
  rw [hread.congr s { s with
    quote := style.quote.getD s.quote
    rest := ", ".toList ++ (style.quote.getD s.quote).wrap constraint ++
      dropVersionArguments s.rest } rfl hoptions rfl] at hnew
  refine ⟨before, read s, after, _, hold, (hread.name s).trans hs.name_eq, fun d hd heq => ?_,
    hnew⟩
  obtain ⟨k, hk, hdeclares⟩ := hbefore d hd
  obtain ⟨j, hj, hget⟩ := List.mem_take_iff_getElem.1 hk
  have hfirst := (declarationLine?_eq_some_iff.1 hs.found).2 j (by omega) k (by
    rw [← hget, List.getElem?_eq_getElem])
  rw [heq, hfirst] at hdeclares
  cases hdeclares

/-- The source of a pinned gem is read as before. -/
theorem read_pin_source :
    ∃ r, pin "gem 'x', '1.0', git: 'u' # web\n".toList .gemfile "x".toList "3.0".toList
        ⟨some .double, .single, []⟩ = .ok r ∧
      ∃ before d after requirement,
        (Document.read .gemfile "gem 'x', '1.0', git: 'u' # web\n".toList).declarations =
          before ++ d :: after ∧
        d.name = "x".toList ∧ (∀ e ∈ before, e.name ≠ "x".toList) ∧
        Document.read .gemfile r.text =
          { Document.read .gemfile "gem 'x', '1.0', git: 'u' # web\n".toList with
            declarations := before ++ { d with versionRequirement := requirement } :: after } := by
  have hd : declarationToEdit .gemfile "gem 'x', '1.0', git: 'u' # web\n".toList "x".toList =
      .ok (0, "gem 'x', '1.0', git: 'u' # web".toList,
        ⟨[], "gem ".toList, none, .single, "x".toList, ", '1.0', git: 'u' # web".toList, false,
          false⟩) := by
    decide
  have hpin := (@pin_eq_ok_iff .gemfile _ _ "3.0".toList ⟨some .double, .single, []⟩ _).2
    ⟨_, _, _, declarationToEdit_eq_ok_iff.1 hd, rfl⟩
  refine ⟨_, hpin, read_pin (by decide) (by decide) ?_ hpin⟩
  intro i line s h
  rw [hd] at h
  cases h
  refine ⟨fun c hc => .inl ?_, fun hdouble => absurd (hdouble.sublist.count_le ':') (by decide)⟩
  have hcomma : (Text.trimStart ", '1.0', git: 'u' # web".toList).head? = some ',' := by decide
  rw [hcomma] at hc
  exact (Option.mem_some_iff.1 hc).symm

end GemDeps
