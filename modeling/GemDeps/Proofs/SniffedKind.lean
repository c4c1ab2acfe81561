import GemDeps.Proofs.DeclaredNames
import GemDeps.Proofs.Spans
import GemDeps.Workspace.Request

/-!
# Gemspecs by their content

A file without a telling name is taken for a gemspec when a line of it starts with a mark of one.
Where dependencies can be inserted is decided by other searches. A declared dependency is such a
mark (`SpecificationSpan.addsFirst_of_lastDependencyLine`), but the line that opens a specification
block is one only when nothing stands in front of the call, and an assignment may stand there.
`sniff_iff_isMarked` says which texts are taken for gemspecs, and so which files can be read and
edited as such.
-/

namespace GemDeps

/-- Does the specification call stand first on a line, behind blanks? -/
def callsFirst (line : Text) : Bool := startsWithWord specificationCall (Text.trimStart line)

/-- Does a dependency call stand first on a line, behind blanks? A name that can be read need not
follow. -/
def addsFirst (line : Text) : Bool := (dependencyCall? (Text.trimStart line)).isSome

/-- Does some line of a text start with one of the two calls? -/
def IsMarked (t : Text) : Prop := ∃ l ∈ Text.lines t, callsFirst l = true ∨ addsFirst l = true

namespace SpecificationSpan

variable {t : Text}

/-- The last dependency of a text stands on a line that starts with its call. -/
theorem addsFirst_of_lastDependencyLine (h : (find t).lastDependencyLine.isSome = true) :
    ∃ l ∈ Text.lines t, addsFirst l = true := by
  obtain ⟨last, hlast⟩ := Option.isSome_iff_exists.1 h
  obtain ⟨l, s, hl, hs⟩ := lastDeclarationLine?_eq_some hlast
  obtain ⟨call, hcall⟩ := Statement.exists_dependencyCall? hs
  exact ⟨l, List.mem_of_getElem? hl, Option.isSome_iff_exists.2 ⟨call, hcall⟩⟩

end SpecificationSpan

/-- The content of a file tells that it is a gemspec when one of its lines starts with one of the
two calls. -/
theorem Kind.sniff_eq_gemspec_iff_lines {t : Text} : Kind.sniff t = .gemspec ↔ IsMarked t := by
  have hmark : ∀ l, markOn? l = none ↔ ¬ (callsFirst l = true ∨ addsFirst l = true) := by
    intro l
    show (if (callsFirst l || addsFirst l) = true then some () else none) = none ↔ _
    rw [← Bool.or_eq_true]
    split <;> simp_all
  rw [Kind.sniff_eq_gemspec_iff, ← Text.filterMap_lines ignoresBlanks_markOn?, ne_eq,
    List.filterMap_eq_nil_iff]
  simp only [hmark, not_forall, not_not, exists_prop, IsMarked]

theorem Document.kind_read (kind : Kind) (t : Text) : (Document.read kind t).kind = kind := by
  cases kind <;> rfl

theorem checkKind_eq_ok_iff {p : Path} {t : Text} {kind : Kind} :
    Action.checkKind p t kind = .ok () ↔ Kind.resolve p t none = kind := by
  unfold Action.checkKind
  dsimp only
  split
  · exact iff_of_true rfl ‹_›
  · exact iff_of_false (by simp) ‹_›

/-- A path that does not tell its kind leaves that to the content. -/
theorem Kind.resolve_of_detect? {p : Path} (h : Kind.detect? p = none) (t : Text) :
    Kind.resolve p t none = Kind.sniff t := by
  rw [Kind.resolve, h]
  rfl

/-- A text in which a dependency is declared is taken for a gemspec. In general it is one exactly
when one of its lines starts with one of the two calls, so a text in which only the opening of the
specification block is found has to have a line with nothing but blanks in front of a call. Of a
file without a telling name this decides whether a dependency may be added and whether it is read as
a gemspec. -/
theorem sniff_iff_isMarked {p : Path} (hp : Kind.detect? p = none) (t : Text) :
    ((SpecificationSpan.find t).lastDependencyLine.isSome = true → Kind.sniff t = .gemspec) ∧
      (Kind.sniff t = .gemspec ↔ IsMarked t) ∧
      (Action.checkKind p t .gemspec = .ok () ↔ IsMarked t) ∧
      ((Action.readDocument p t none).kind = .gemspec ↔ IsMarked t) := by
  have hsniff : Kind.sniff t = .gemspec ↔ IsMarked t := Kind.sniff_eq_gemspec_iff_lines
  refine ⟨fun hdependency => ?_, hsniff, ?_, ?_⟩
  · obtain ⟨l, hl, hadds⟩ := SpecificationSpan.addsFirst_of_lastDependencyLine hdependency
    exact hsniff.2 ⟨l, hl, .inr hadds⟩
  · rw [checkKind_eq_ok_iff, Kind.resolve_of_detect? hp, hsniff]
  · show (Document.read (Kind.resolve p t none) t).kind = .gemspec ↔ _
    rw [Document.kind_read, Kind.resolve_of_detect? hp, hsniff]

/-- A gemspec whose specification is assigned to a variable. -/
def assignedGemspec : Text := "spec = Gem::Specification.new do |s|\nend\n".toList

/-- In `assignedGemspec` the specification block is found and a dependency can be inserted, but its
content tells a Gemfile, so adding one to a file without a telling name is refused. -/
theorem sniff_assigned :
    (SpecificationSpan.find assignedGemspec).startLine = some 0 ∧
      (∃ r, addDependency assignedGemspec "rake".toList .none ⟨none, .double, "  ".toList⟩ =
        .ok r) ∧
      Kind.sniff assignedGemspec = .gemfile ∧
      Action.checkKind ⟨"/w/deps".toList⟩ assignedGemspec .gemspec =
        .error (.wrongKind ⟨"/w/deps".toList⟩ .gemspec .gemfile) := by
  refine ⟨by decide, ⟨⟨"spec = Gem::Specification.new do |s|\n\n".toList ++
    "  s.add_dependency \"rake\"\nend\n".toList, 1, 3⟩, by decide⟩, by decide, by decide⟩

/-- With the call first on its line the same block makes the file a gemspec. -/
theorem sniff_iff_isMarked_block :
    Kind.sniff "\n  Gem::Specification.new do |s|\nend\n".toList = .gemspec ∧
      Action.checkKind ⟨"/w/deps".toList⟩ "\n  Gem::Specification.new do |s|\nend\n".toList
        .gemspec = .ok () := by
  obtain ⟨-, hsniff, hcheck, -⟩ := sniff_iff_isMarked (p := ⟨"/w/deps".toList⟩) (by decide)
    "\n  Gem::Specification.new do |s|\nend\n".toList
  have hmarked : IsMarked "\n  Gem::Specification.new do |s|\nend\n".toList :=
    ⟨"  Gem::Specification.new do |s|".toList, by decide, .inl (by decide)⟩
  exact ⟨hsniff.2 hmarked, hcheck.2 hmarked⟩

end GemDeps
