import GemDeps.Proofs.LineReadings
import GemDeps.Proofs.Reading

/-!
# Declared names and marks of a gemspec

Two things are read off the lines of a text that do not depend on the blanks around them: the names
that a document lists (`Document.names_read`), and the marks by which the content of a file tells
its kind (`Kind.sniff_eq_gemspec_iff`). A dependency statement is such a mark, a `gem` statement is
none.
-/

namespace GemDeps

theorem Text.wordEnds_append_blanks {b : Text} (hb : Text.IsBlanks b) (r : Text) :
    Text.wordEnds (r ++ b) = Text.wordEnds r := by
  cases r with
  | cons c r => rfl
  | nil =>
    cases b with
    | nil => rfl
    | cons c b =>
      have hc := Text.isWord_of_isBlank (hb c List.mem_cons_self)
      simp [Text.wordEnds, hc]

/-! ## Marks of a gemspec -/

/-- What the line of a gemspec starts with that marks it as one. -/
def IsMark (w : Text) : Prop :=
  w = specificationCall ∨ ∃ call : DependencyCall, call.IsProper ∧ w = call.head

theorem IsMark.getLast? {w : Text} (h : IsMark w) :
    ∃ c, w.getLast? = some c ∧ Text.isBlank c = false := by
  rcases h with rfl | ⟨call, -, rfl⟩
  · exact ⟨'w', by decide, by decide⟩
  · refine ⟨'y', ?_, by decide⟩
    rw [DependencyCall.head, List.getLast?_append_of_ne_nil _ (by decide)]
    rfl

theorem startsWithWord_iff {w t : Text} :
    startsWithWord w t = true ↔ ∃ r, t = w ++ r ∧ Text.wordEnds r = true := by
  unfold startsWithWord
  cases hr : w.isPrefixOf? t with
  | none =>
    refine iff_of_false Bool.false_ne_true ?_
    rintro ⟨r, ht, -⟩
    rw [Text.isPrefixOf?_eq_some_iff.2 ht] at hr
    cases hr
  | some r =>
    obtain rfl := Text.isPrefixOf?_eq_some_iff.1 hr
    simp

theorem isSome_dependencyCall?_iff {t : Text} : (dependencyCall? t).isSome = true ↔
    ∃ call : DependencyCall, call.IsProper ∧ ∃ r, t = call.head ++ r ∧ Text.wordEnds r = true := by
  rw [Option.isSome_iff_exists]
  constructor
  · rintro ⟨call, hcall⟩
    obtain ⟨hproper, ht, hends⟩ := eq_of_dependencyCall? hcall
    exact ⟨call, hproper, call.rest, ht, hends⟩
  · rintro ⟨call, hproper, r, rfl, hends⟩
    exact ⟨_, dependencyCall?_head hproper hends⟩

theorem marksGemspec_iff {line : Text} : marksGemspec line = true ↔
    ∃ w, IsMark w ∧ ∃ r, Text.trimStart line = w ++ r ∧ Text.wordEnds r = true := by
  unfold marksGemspec
  rw [Bool.or_eq_true, startsWithWord_iff, isSome_dependencyCall?_iff]
  constructor
  · rintro (h | ⟨call, hcall, h⟩)
    · exact ⟨_, .inl rfl, h⟩
    · exact ⟨_, .inr ⟨call, hcall, rfl⟩, h⟩
  · rintro ⟨w, rfl | ⟨call, hcall, rfl⟩, h⟩
    · exact .inl h
    · exact .inr ⟨call, hcall, h⟩

theorem marksGemspec_append_blanks {b : Text} (hb : Text.IsBlanks b) (l : Text) :
    marksGemspec (l ++ b) = marksGemspec l := by
  by_cases hl : Text.IsBlanks l
  · have htrim : Text.trimStart (l ++ b) = Text.trimStart l := by
      rw [Text.trimStart_eq_nil_iff.2 hl, Text.trimStart_eq_nil_iff]
      exact List.forall_mem_append.2 ⟨hl, hb⟩
    unfold marksGemspec
    rw [htrim]
  · rw [Bool.eq_iff_iff, marksGemspec_iff, marksGemspec_iff,
      Text.trimStart_append_of_not_isBlanks hl]
    constructor
    · rintro ⟨w, hw, r, ht, hends⟩
      obtain ⟨c, hlast, hc⟩ := hw.getLast?
      obtain ⟨k, hk, rfl⟩ := Text.exists_append_of_append_blanks hlast hc hb ht.symm
      rw [Text.wordEnds_append_blanks hb] at hends
      exact ⟨w, hw, k, hk, hends⟩
    · rintro ⟨w, hw, r, ht, hends⟩
      refine ⟨w, hw, r ++ b, ?_, (Text.wordEnds_append_blanks hb r).trans hends⟩
      rw [ht, List.append_assoc]

/-- The mark of a gemspec on a line. -/
def markOn? (line : Text) : Option Unit := if marksGemspec line then some () else none

theorem ignoresBlanks_markOn? : IgnoresBlanks markOn? where
  before b l hb := by
    unfold markOn? marksGemspec
    rw [Text.trimStart_append hb]
  behind b l hb := by
    unfold markOn?
    rw [marksGemspec_append_blanks hb]
  empty := rfl

/-- A file is taken for a gemspec by its content when some line of it is marked. -/
theorem Kind.sniff_eq_gemspec_iff {t : Text} :
    Kind.sniff t = .gemspec ↔ Text.scan markOn? t ≠ [] := by
  have hmarked : (t.splitOn '\n').any marksGemspec = true ↔ Text.scan markOn? t ≠ [] := by
    rw [← Text.filterMap_splitOn ignoresBlanks_markOn?, ne_eq, List.filterMap_eq_nil_iff,
      List.any_eq_true]
    simp [markOn?]
  unfold Kind.sniff
  rw [← hmarked]
  split <;> simp_all

/-! ## Declared names -/

/-- The name that a line declares. -/
def nameOn? (kind : Kind) (line : Text) : Option Text := (Statement.read? kind line).map (·.name)

/-- The names of the declarations of a document, in their order. -/
def Document.names (d : Document) : List Text := d.declarations.map (·.name)

theorem Statement.map_name_finish? (indent indent' called : Text) (receiver : Option Text)
    (development : Bool) (opening : ArgumentOpening) :
    (finish? indent called receiver development opening).map (·.name) =
      (finish? indent' called receiver development opening).map (·.name) := by
  unfold finish?
  cases Quoted.read? opening.rest with
  | none => rfl
  | some q =>
    dsimp only
    split <;> rfl

theorem ignoresBlanks_nameOn? (kind : Kind) : IgnoresBlanks (nameOn? kind) where
  before b l hb := by
    unfold nameOn?
    cases kind with
    | gemfile =>
      show (Statement.readGem? _).map _ = (Statement.readGem? _).map _
      unfold Statement.readGem?
      rw [Text.trimStart_append hb]
      split
      · rfl
      · split
        · exact Statement.map_name_finish? ..
        · rfl
    | gemspec =>
      show (Statement.readDependency? _).map _ = (Statement.readDependency? _).map _
      unfold Statement.readDependency?
      rw [Text.trimStart_append hb]
      split
      · rfl
      · exact Statement.map_name_finish? ..
  behind b l hb := by
    unfold nameOn?
    rw [Statement.read?_append_blanks hb, Option.map_map]
    rfl
  empty := by cases kind <;> rfl

/-- The names of a document are those on the lines of its text. -/
theorem Document.names_read (kind : Kind) (t : Text) :
    (Document.read kind t).names = Text.scan (nameOn? kind) t := by
  have hreported := congrArg (List.map Prod.fst) (reported_read kind t)
  rw [List.map_map, List.map_filterMap] at hreported
  refine hreported.trans ?_
  rw [← Text.filterMap_lines (ignoresBlanks_nameOn? kind)]
  conv => rhs; rw [← List.zipIdx_map_fst 0 (Text.lines t), List.filterMap_map]
  refine List.filterMap_congr fun p _ => ?_
  rw [Option.map_map]
  rfl

theorem Document.mem_names_iff {kind : Kind} {t name : Text} :
    name ∈ (Document.read kind t).names ↔ (declarationLine? kind t name).isSome = true := by
  rw [isSome_declarationLine?_iff, Document.find?, List.find?_isSome, Document.names,
    List.mem_map]
  simp

/-! ## Marks and statements -/

theorem nameOn?_of_read? {kind : Kind} {line : Text} {s : Statement}
    (h : Statement.read? kind line = some s) : nameOn? kind line = some s.name := by
  rw [nameOn?, h]
  rfl

/-- A `gem` statement marks no gemspec. -/
theorem markOn?_of_readGem? {line : Text} {s : Statement} (h : Statement.readGem? line = some s) :
    markOn? line = none := by
  have hgem : ∃ r, Text.trimStart line = 'g' :: r := by
    cases hr : "gem".toList.isPrefixOf? (Text.trimStart line) with
    | none => simp only [Statement.readGem?, hr, reduceCtorEq] at h
    | some r => exact ⟨_, Text.isPrefixOf?_eq_some_iff.1 hr⟩
  obtain ⟨r, hr⟩ := hgem
  have hcall : dependencyCall? (Text.trimStart line) = none := by
    cases hcall : dependencyCall? (Text.trimStart line) with
    | none => rfl
    | some call =>
      rw [Statement.readGem?_of_dependencyCall? hcall] at h
      cases h
  have hmark : marksGemspec line = false := by
    show (startsWithWord specificationCall (Text.trimStart line) ||
      (dependencyCall? (Text.trimStart line)).isSome) = false
    rw [hcall, hr]
    rfl
  rw [markOn?, hmark]
  rfl

/-- A dependency statement marks its file as a gemspec. -/
theorem markOn?_of_readDependency? {line : Text} {s : Statement}
    (h : Statement.readDependency? line = some s) : markOn? line = some () := by
  obtain ⟨call, hcall⟩ := Statement.exists_dependencyCall? h
  have hmark : marksGemspec line = true := by
    show (_ || (dependencyCall? (Text.trimStart line)).isSome) = true
    rw [hcall, Option.isSome_some, Bool.or_true]
  rw [markOn?, hmark]
  rfl

/-- Two statements of one kind are marks of a gemspec alike. -/
theorem markOn?_eq_of_read? {kind : Kind} {l l' : Text} {s s' : Statement}
    (h : Statement.read? kind l = some s) (h' : Statement.read? kind l' = some s') :
    markOn? l = markOn? l' := by
  cases kind with
  | gemfile => rw [markOn?_of_readGem? h, markOn?_of_readGem? h']
  | gemspec => rw [markOn?_of_readDependency? h, markOn?_of_readDependency? h']

end GemDeps
