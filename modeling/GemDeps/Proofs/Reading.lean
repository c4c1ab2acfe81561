import GemDeps.Manifest.Reader
import GemDeps.Proofs.EditedLine

/-!
# The reader and the locator

The declarations that a manifest's reader reports are the statements that the search for lines
sees, in the same order, with the same names and lines (`reported_read`). So the first declaration
of a name is the statement on the line that an edit of that name changes (`reported_find?`).
-/

namespace GemDeps

/-! ## Lines that declare a gem -/

/-- The code of a line with a `gem` statement starts with the keyword. -/
theorem exists_code_of_readGem? {line : Text} {s : Statement}
    (h : Statement.readGem? line = some s) :
    ∃ t, Text.trim (stripComment line) = 'g' :: 'e' :: 'm' :: t := by
  have hon : s.IsOn .gemfile line := Statement.isOn_of_read? h
  cases hr : "gem".toList.isPrefixOf? (Text.trimStart line) with
  | none => simp only [Statement.readGem?, hr, reduceCtorEq] at h
  | some r =>
    rw [Text.isPrefixOf?_eq_some_iff] at hr
    have hgem : Text.IsQuiet (Text.indentation line ++ "gem".toList) :=
      (Text.isQuiet_indentation line).append isQuiet_gem
    have hline : line = Text.indentation line ++ "gem".toList ++ r := by
      rw [List.append_assoc, ← hr, Text.indentation_append_trimStart]
    have hcode : stripComment line = Text.indentation line ++ ("gem".toList ++ stripComment r) := by
      conv => lhs; rw [hline]
      rw [hgem.isUncommented, List.append_assoc]
    refine ⟨Text.trimEnd (stripComment r), ?_⟩
    rw [hcode, Text.trim, Text.trimStart_append (Text.isBlanks_indentation line)]
    show Text.trimEnd (Text.trimStart ('g' :: 'e' :: 'm' :: stripComment r)) = _
    rw [Text.trimStart_cons (by decide)]
    exact Text.trimEnd_concat_append (by decide) ['g', 'e'] (stripComment r)

theorem startsWithEnd_gem (t : Text) : startsWithEnd ('g' :: 'e' :: 'm' :: t) = false := by
  rw [startsWithEnd, Text.trimStart_cons (by decide)]
  rfl

namespace Entry

theorem ofRuby_ne_gem (call : Call) (s : Statement) : ofRuby call ≠ gem s := by
  unfold ofRuby
  split <;> simp

theorem ofSource_ne_gem (call : Call) (s : Statement) : ofSource call ≠ gem s := by
  unfold ofSource
  split <;> simp

theorem readGem?_of_ofPlain {line code : Text} {s : Statement} (h : ofPlain line code = gem s) :
    Statement.readGem? line = some s := by
  unfold ofPlain at h
  split at h
  · simp at h
  · split at h
    · rename_i w hw
      rw [hw]
      simpa using h
    · split at h <;> simp at h

/-- No keyword of a block or a setting starts the code of a `gem` statement. -/
theorem ofLine_of_readGem? {line : Text} {s : Statement} (h : Statement.readGem? line = some s) :
    ofLine line = gem s := by
  obtain ⟨t, ht⟩ := exists_code_of_readGem? h
  unfold ofLine
  dsimp only
  rw [ht]
  show ofPlain line ('g' :: 'e' :: 'm' :: t) = gem s
  unfold ofPlain
  rw [if_neg (by simp [startsWithEnd_gem t]), h]

/-- The meaning of a line comes from the first of the known calls that its code starts with. -/
theorem ofLine_cases {line code : Text} (hcode : Text.trim (stripComment line) = code) :
    (code = [] ∧ ofLine line = nothing) ∨
      (∃ call, Call.read? ["ruby".toList] code = some call ∧ ofLine line = ofRuby call) ∨
      (∃ call, Call.read? ["source".toList] code = some call ∧ ofLine line = ofSource call) ∨
      (∃ call, blockCall? ["group".toList] code = some call ∧
        ofLine line = opens (.groups (Value.nameList call.arguments))) ∨
      (∃ call, blockCall? ["platforms".toList, "platform".toList] code = some call ∧
        ofLine line = opens (.platforms (Value.nameList call.arguments))) ∨
      (∃ call, Call.read? ["source".toList] code = none ∧
        blockCall? sourceKeywords code = some call ∧
        ofLine line = opens (repositoryScope code call)) ∨
      ofLine line = ofPlain line code := by
  unfold ofLine
  dsimp only
  rw [hcode]
  by_cases hempty : code.isEmpty = true
  · exact .inl ⟨List.isEmpty_iff.1 hempty, if_pos hempty⟩
  rw [if_neg hempty]
  cases hruby : Call.read? ["ruby".toList] code with
  | some call => exact .inr (.inl ⟨call, rfl, rfl⟩)
  | none =>
    cases hsource : Call.read? ["source".toList] code with
    | some call => exact .inr (.inr (.inl ⟨call, rfl, rfl⟩))
    | none =>
      cases hgroup : blockCall? ["group".toList] code with
      | some call => exact .inr (.inr (.inr (.inl ⟨call, rfl, rfl⟩)))
      | none =>
        cases hplatforms : blockCall? ["platforms".toList, "platform".toList] code with
        | some call => exact .inr (.inr (.inr (.inr (.inl ⟨call, rfl, rfl⟩))))
        | none =>
          cases hrepository : blockCall? sourceKeywords code with
          | some call => exact .inr (.inr (.inr (.inr (.inr (.inl ⟨call, rfl, rfl, rfl⟩)))))
          | none => exact .inr (.inr (.inr (.inr (.inr (.inr rfl)))))

theorem readGem?_of_ofLine {line : Text} {s : Statement} (h : ofLine line = gem s) :
    Statement.readGem? line = some s := by
  rcases @ofLine_cases line _ rfl with ⟨-, he⟩ | ⟨call, -, he⟩ | ⟨call, -, he⟩ |
    ⟨call, -, he⟩ | ⟨call, -, he⟩ | ⟨call, -, -, he⟩ | he
  · cases he.symm.trans h
  · exact absurd (he.symm.trans h) (ofRuby_ne_gem call s)
  · exact absurd (he.symm.trans h) (ofSource_ne_gem call s)
  · cases he.symm.trans h
  · cases he.symm.trans h
  · cases he.symm.trans h
  · exact readGem?_of_ofPlain (he.symm.trans h)

/-- A line declares a gem exactly when it holds a `gem` statement. -/
theorem ofLine_eq_gem_iff {line : Text} {s : Statement} :
    ofLine line = gem s ↔ Statement.readGem? line = some s :=
  ⟨readGem?_of_ofLine, ofLine_of_readGem?⟩

end Entry

/-! ## What is reported of a statement -/

/-- The requirement that a statement's arguments give. -/
def Statement.requirement (s : Statement) : Option Text :=
  joinVersions (leadingVersions (splitArguments s.arguments)).1

/-- Name, requirement and line of a statement on line `n`. -/
def Statement.reported (n : Nat) (s : Statement) : Text × Option Text × UInt32 :=
  (s.name, s.requirement, .ofNat n)

/-- Name, requirement and line of a declaration. -/
def Declaration.reported (d : Declaration) : Text × Option Text × UInt32 :=
  (d.name, d.versionRequirement, d.line)

theorem reported_gemfileLines (state : Gemfile.State) (n : Nat) (lines : List Text) :
    (Gemfile.readLines state n lines).1.map Declaration.reported =
      (lines.zipIdx n).filterMap fun p =>
        (Statement.readGem? p.1).map (Statement.reported p.2) := by
  induction lines generalizing state n with
  | nil => rfl
  | cons l ls ih =>
    rw [List.zipIdx_cons, List.filterMap_cons, Gemfile.readLines]
    cases hs : Statement.readGem? l with
    | some s =>
      rw [Entry.ofLine_eq_gem_iff.2 hs]
      simp only [List.map_cons, ih, Option.map_some]
      rfl
    | none =>
      have hgem : ∀ s, Entry.ofLine l ≠ .gem s := by
        intro s h
        rw [Entry.ofLine_eq_gem_iff, hs] at h
        cases h
      rw [Option.map_none]
      dsimp only
      split
      · rename_i s h
        exact absurd h (hgem s)
      · exact ih _ _

theorem reported_gemspecLines (version : Option Text) (n : Nat) (lines : List Text) :
    (Gemspec.readLines version n lines).1.map Declaration.reported =
      (lines.zipIdx n).filterMap fun p =>
        (Statement.readDependency? p.1).map (Statement.reported p.2) := by
  induction lines generalizing version n with
  | nil => rfl
  | cons l ls ih =>
    rw [List.zipIdx_cons, List.filterMap_cons, Gemspec.readLines]
    cases hs : Statement.readDependency? l with
    | some s =>
      simp only [List.map_cons, ih, Option.map_some]
      rfl
    | none =>
      simp only [Option.map_none]
      exact ih _ _

/-- The reader reports the statements on the lines, in their order. -/
theorem reported_read (kind : Kind) (t : Text) :
    (Document.read kind t).declarations.map Declaration.reported =
      (Text.lines t).zipIdx.filterMap fun p =>
        (Statement.read? kind p.1).map (Statement.reported p.2) := by
  cases kind with
  | gemfile => exact reported_gemfileLines .initial 0 (Text.lines t)
  | gemspec => exact reported_gemspecLines none 0 (Text.lines t)

/-- What is made of the statements on the lines comes from a line with its number. -/
theorem mem_filterMap_lines {α : Type} {lines : List Text} {read : Text → Option Statement}
    {f : Nat → Statement → α} {a : α} :
    (a ∈ lines.zipIdx.filterMap fun p => (read p.1).map (f p.2)) ↔
      ∃ k l s, lines[k]? = some l ∧ read l = some s ∧ f k s = a := by
  rw [List.mem_filterMap]
  constructor
  · rintro ⟨⟨l, k⟩, hl, ha⟩
    obtain ⟨s, hs, ha⟩ := Option.map_eq_some_iff.1 ha
    exact ⟨k, l, s, List.mem_zipIdx_iff_getElem?.1 hl, hs, ha⟩
  · rintro ⟨k, l, s, hl, hs, ha⟩
    exact ⟨(l, k), List.mem_zipIdx_iff_getElem?.2 hl, Option.map_eq_some_iff.2 ⟨s, hs, ha⟩⟩

theorem map_reported_find? (kind : Kind) (t name : Text) :
    ((Document.read kind t).find? name).map Declaration.reported =
      ((Text.lines t).zipIdx.find? fun p => declares kind name p.1).bind fun p =>
        (Statement.read? kind p.1).map (Statement.reported p.2) := by
  have hdeclares : ∀ (l : Text) (n : Nat), ((Statement.read? kind l).map
      (Statement.reported n)).any (fun d => decide (d.1 = name)) = declares kind name l := by
    intro l n
    unfold declares
    cases Statement.read? kind l <;> rfl
  have hfind : ((Document.read kind t).find? name).map Declaration.reported =
      ((Document.read kind t).declarations.map Declaration.reported).find?
        fun d => decide (d.1 = name) := by
    rw [List.find?_map]
    rfl
  rw [hfind, reported_read, List.find?_filterMap]
  simp only [hdeclares]

/-- The first declaration of a name is the statement on the first line that declares it. -/
theorem reported_find? {kind : Kind} {t name line : Text} {i : Nat} {s : Statement}
    (h : declarationLine? kind t name = some i) (hline : (Text.lines t)[i]? = some line)
    (hs : Statement.read? kind line = some s) :
    ((Document.read kind t).find? name).map Declaration.reported = some (s.reported i) := by
  obtain ⟨⟨l, hl, hdeclares⟩, hbefore⟩ := declarationLine?_eq_some_iff.1 h
  obtain rfl : line = l := by simpa [hline] using hl
  obtain ⟨hi, hget⟩ := List.getElem?_eq_some_iff.1 hline
  have hfind : ((Text.lines t).zipIdx.find? fun p => declares kind name p.1) =
      some (line, i) := by
    refine List.find?_eq_some_iff_getElem.2 ⟨hdeclares, i, by simpa using hi, ?_, ?_⟩
    · simp [hget]
    · intro j hj
      have hlt : j < (Text.lines t).length := Nat.lt_trans hj hi
      simp [hbefore j hj _ (List.getElem?_eq_getElem hlt)]
  rw [map_reported_find?, hfind, Option.bind_some, hs]
  rfl

/-- The reader finds a name exactly when some line declares it. -/
theorem isSome_find?_iff {kind : Kind} {t name : Text} :
    ((Document.read kind t).find? name).isSome = true ↔
      ∃ i line s, declarationLine? kind t name = some i ∧ (Text.lines t)[i]? = some line ∧
        Statement.read? kind line = some s := by
  constructor
  · intro h
    obtain ⟨d, hd⟩ := Option.isSome_iff_exists.1 h
    have hreported := map_reported_find? kind t name
    rw [hd] at hreported
    obtain ⟨p, hp, -⟩ := Option.bind_eq_some_iff.1 hreported.symm
    have hmem : p.1 ∈ Text.lines t := List.fst_mem_of_mem_zipIdx (List.mem_of_find?_eq_some hp)
    have hsome : (declarationLine? kind t name).isSome = true := by
      have hpos := List.find?_some hp
      rw [declarationLine?, List.findIdx?_isSome, List.any_eq_true]
      exact ⟨p.1, hmem, hpos⟩
    obtain ⟨i, hi⟩ := Option.isSome_iff_exists.1 hsome
    obtain ⟨⟨l, hl, hdeclares⟩, -⟩ := declarationLine?_eq_some_iff.1 hi
    obtain ⟨s, hs, -⟩ := declares_iff.1 hdeclares
    exact ⟨i, l, s, hi, hl, hs⟩
  · rintro ⟨i, line, s, hi, hline, hs⟩
    have hreported := reported_find? hi hline hs
    obtain ⟨d, hd, -⟩ := Option.map_eq_some_iff.1 hreported
    rw [hd]
    rfl

theorem isSome_declarationLine?_iff {kind : Kind} {t name : Text} :
    (declarationLine? kind t name).isSome = true ↔
      ((Document.read kind t).find? name).isSome = true := by
  rw [isSome_find?_iff, Option.isSome_iff_exists]
  constructor
  · rintro ⟨i, hi⟩
    obtain ⟨⟨l, hl, hdeclares⟩, -⟩ := declarationLine?_eq_some_iff.1 hi
    obtain ⟨s, hs, -⟩ := declares_iff.1 hdeclares
    exact ⟨i, l, s, hi, hl, hs⟩
  · rintro ⟨i, -, -, hi, -⟩
    exact ⟨i, hi⟩

end GemDeps
