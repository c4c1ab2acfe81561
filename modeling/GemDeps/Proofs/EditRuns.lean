import GemDeps.Proofs.EditedNames
import GemDeps.Proofs.Requests
import Mathlib.Data.List.Nodup

/-!
# Runs of edits

One action keeps the declared names of a manifest and the kind of its file
(`Action.keepsNames_textAfter`). So does a run of any length: no name is lost, and none is declared
more than once that was not before (`edits_keep_names`).
-/

namespace GemDeps

/-- The version that an action writes. -/
def Action.version? : Action → Option Text
  | .pin _ version _ _ => some version
  | .addDeclaration _ options _ => options.version
  | .addDependency _ options _ => options.version
  | .read _ => none
  | .unpin _ => none

theorem newline_notMem_versionConstraint {v : Text} (hv : '\n' ∉ v) (op : Option Operator) :
    '\n' ∉ versionConstraint v op :=
  newline_notMem_of_forall <|
    forall_mem_versionConstraint ne_newline_of_isPlain op (forall_ne_newline hv)

theorem Action.keepsNames_textAfter {c : Configuration} {p : Path} {t : Text} {a : Action}
    (hindent : Text.IsBlanks c.indent) (hversion : ∀ v ∈ a.version?, '\n' ∉ v) :
    KeepsNames (Kind.resolve p t none) t (a.textAfter c p t) := by
  rcases a.textAfter_cases c p t with hsame | ⟨hcheck, hmakes⟩
  · rw [hsame]
    exact .refl _ t
  · generalize a.textAfter c p t = u at hmakes
    cases a with
    | read kind =>
      obtain rfl := hmakes
      exact .refl _ u
    | pin name version operator quote =>
      obtain ⟨hname, -⟩ := and_of_bind_eq_ok hcheck
      obtain ⟨r, hr, rfl⟩ := hmakes
      exact keepsNames_pin (isGemName_of_checkGemName hname)
        (newline_notMem_versionConstraint (hversion version rfl) operator) hr
    | unpin name =>
      obtain ⟨r, hr, rfl⟩ := hmakes
      cases r with
      | none => exact .refl _ t
      | some r => exact keepsNames_unpin hr
    | addDeclaration name options quote =>
      obtain ⟨hkind, r, hr, rfl⟩ := hmakes
      rw [hkind]
      exact keepsNames_addDeclaration hcheck hversion hindent hr
    | addDependency name options quote =>
      obtain ⟨hkind, r, hr, rfl⟩ := hmakes
      rw [hkind]
      exact keepsNames_addDependency (isChecked_of_checkOptions hcheck).name hversion hindent hr

/-- The kind of the file and the names in it after some actions, as they were before. -/
theorem keeps_names_foldl {c : Configuration} {p : Path} (hindent : Text.IsBlanks c.indent)
    (as : List Action) (hversion : ∀ a ∈ as, ∀ v ∈ a.version?, '\n' ∉ v) (t : Text) :
    Kind.resolve p (as.foldl (Action.textAfter c p) t) none = Kind.resolve p t none ∧
      (Document.read (Kind.resolve p t none) t).names.Sublist
        (Document.read (Kind.resolve p t none) (as.foldl (Action.textAfter c p) t)).names ∧
      ∀ n, (Document.read (Kind.resolve p t none) (as.foldl (Action.textAfter c p) t)).names.count
        n ≤ max 1 ((Document.read (Kind.resolve p t none) t).names.count n) := by
  induction as generalizing t with
  | nil => exact ⟨rfl, .refl _, fun n => Nat.le_max_right _ _⟩
  | cons a as ih =>
    obtain ⟨ha, has⟩ := List.forall_mem_cons.1 hversion
    have hstep := Action.keepsNames_textAfter (p := p) (t := t) hindent ha
    obtain ⟨hkind, hsublist, hcount⟩ := ih has (a.textAfter c p t)
    rw [hstep.resolve_eq] at hkind hsublist hcount
    refine ⟨hkind, hstep.sublist.trans hsublist, fun n => ?_⟩
    have hfirst := hstep.count_le n
    have hrest := hcount n
    rw [List.foldl_cons]
    omega

/-- No run of edits of a file loses a declared name or declares one twice, and the file stays of its
kind: after any actions on the file at a path, whether they succeed or not, the names that the
reader reported before are still there in their order, and each is declared once at most, or as
often as before. -/
theorem edits_keep_names {s : Session} {path : Path} {f : FileTree} {t : Text}
    (hread : f.read (s.resolve path) = .ok t) (hindent : Text.IsBlanks s.configuration.indent)
    (as : List Action) (hversion : ∀ a ∈ as, ∀ v ∈ a.version?, '\n' ∉ v) :
    ∃ u, (s.afterAll path f as).read (s.resolve path) = .ok u ∧
      Kind.resolve (s.resolve path) u none = Kind.resolve (s.resolve path) t none ∧
      (Document.read (Kind.resolve (s.resolve path) t none) t).names.Sublist
        (Document.read (Kind.resolve (s.resolve path) t none) u).names ∧
      ∀ n, (Document.read (Kind.resolve (s.resolve path) t none) u).names.count n ≤
        max 1 ((Document.read (Kind.resolve (s.resolve path) t none) t).names.count n) :=
  ⟨_, Session.read_afterAll hread as, keeps_names_foldl hindent as hversion t⟩

/-- Two gems, of which one is pinned and unpinned, a third that is added, and one that is refused
since it is declared already. -/
theorem edits_keep_names_gems :
    ∃ u, (Session.afterAll { workingDirectory := ⟨"/w".toList⟩ } ⟨"Gemfile".toList⟩
        ⟨[(["w".toList, "Gemfile".toList], .text "gem 'a'\ngem 'b'\n".toList)]⟩
        [.pin "a".toList "1.0".toList none none, .addDeclaration "c".toList .none none,
          .addDeclaration "b".toList .none none, .unpin "a".toList]).read
        ⟨"/w/Gemfile".toList⟩ = .ok u ∧
      Kind.resolve ⟨"/w/Gemfile".toList⟩ u none = .gemfile ∧
      ["a".toList, "b".toList].Sublist (Document.read .gemfile u).names ∧
      (Document.read .gemfile u).names.Nodup := by
  have hresolve : ({ workingDirectory := ⟨"/w".toList⟩ } : Session).resolve ⟨"Gemfile".toList⟩ =
      ⟨"/w/Gemfile".toList⟩ := by decide
  have hkind : Kind.resolve ⟨"/w/Gemfile".toList⟩ "gem 'a'\ngem 'b'\n".toList none =
      .gemfile := by decide
  have hnames : (Document.read .gemfile "gem 'a'\ngem 'b'\n".toList).names =
      ["a".toList, "b".toList] := by decide
  obtain ⟨u, hu, hsame, hsublist, hcount⟩ := @edits_keep_names
    { workingDirectory := ⟨"/w".toList⟩ } ⟨"Gemfile".toList⟩
    ⟨[(["w".toList, "Gemfile".toList], .text "gem 'a'\ngem 'b'\n".toList)]⟩
    "gem 'a'\ngem 'b'\n".toList (by rw [hresolve]; rfl) (List.all_eq_true.1 (by decide))
    [.pin "a".toList "1.0".toList none none, .addDeclaration "c".toList .none none,
      .addDeclaration "b".toList .none none, .unpin "a".toList]
    (by simp [Action.version?, DeclarationOptions.none])
  rw [hresolve] at hu hsame hsublist hcount
  rw [hkind] at hsame hsublist hcount
  rw [hnames] at hsublist hcount
  refine ⟨u, hu, hsame, hsublist, List.nodup_iff_count_le_one.2 fun n => ?_⟩
  have hnodup : ["a".toList, "b".toList].Nodup := by decide
  have honce := List.nodup_iff_count_le_one.1 hnodup n
  have hn := hcount n
  omega

end GemDeps
