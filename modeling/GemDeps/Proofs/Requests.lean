import GemDeps.Proofs.FileTrees
import GemDeps.Workspace.Session

/-!
# Requests on a tree of files

An action that succeeds makes the text that its edit makes (`Action.makes_of_run`). A request leaves
the file at its path with that text, or, when its inputs are not valid or its action fails, with the
text it had (`Session.read_after`), and so does a run of requests (`Session.read_afterAll`).
-/

namespace GemDeps

theorem exists_of_mapError_bind {ε ε' α β : Type} {x : Except ε α} {f : ε → ε'}
    {g : α → Except ε' β} {b : β} (h : x.mapError f >>= g = .ok b) :
    ∃ a, x = .ok a ∧ g a = .ok b := by
  cases x with
  | error e => cases h
  | ok a => exact ⟨a, rfl, h⟩

/-! ## Actions -/

namespace Action

/-- The text that an action makes of a text, by the edit that it is. -/
def Makes (c : Configuration) (p : Path) (t u : Text) : Action → Prop
  | read _ => u = t
  | pin name version operator quote =>
    ∃ r, GemDeps.pin t (Kind.resolve p t none) name (versionConstraint version operator)
      (c.style (Kind.resolve p t none) quote) = .ok r ∧ u = r.text
  | unpin name =>
    ∃ r, GemDeps.unpin t (Kind.resolve p t none) name = .ok r ∧ u = (r.map (·.text)).getD t
  | addDeclaration name options quote =>
    Kind.resolve p t none = .gemfile ∧
      ∃ r, GemDeps.addDeclaration t name options (c.style .gemfile quote) = .ok r ∧ u = r.text
  | addDependency name options quote =>
    Kind.resolve p t none = .gemspec ∧
      ∃ r, GemDeps.addDependency t name options (c.style .gemspec quote) = .ok r ∧ u = r.text

theorem exists_of_checkKind_bind {p : Path} {t : Text} {kind : Kind} {o : Outcome}
    {g : Unit → Except ManifestError Outcome} (h : checkKind p t kind >>= g = .ok o) :
    Kind.resolve p t none = kind ∧ g () = .ok o := by
  unfold checkKind at h
  by_cases hkind : Kind.resolve p t none = kind
  · dsimp only at h
    rw [if_pos hkind] at h
    exact ⟨hkind, h⟩
  · dsimp only at h
    rw [if_neg hkind] at h
    cases h

theorem makes_of_run {c : Configuration} {p : Path} {t : Text} {a : Action} {o : Outcome}
    (h : a.run c p t = .ok o) : o.path = p ∧ o.previous = t ∧ a.Makes c p t o.text := by
  cases a with
  | read kind =>
    cases h
    exact ⟨rfl, rfl, rfl⟩
  | pin name version operator quote =>
    obtain ⟨r, hr, ho⟩ := exists_of_mapError_bind h
    cases ho
    exact ⟨rfl, rfl, r, hr, rfl⟩
  | unpin name =>
    obtain ⟨r, hr, ho⟩ := exists_of_mapError_bind h
    cases r with
    | none =>
      cases ho
      exact ⟨rfl, rfl, none, hr, rfl⟩
    | some r =>
      cases ho
      exact ⟨rfl, rfl, some r, hr, rfl⟩
  | addDeclaration name options quote =>
    obtain ⟨hkind, h⟩ := exists_of_checkKind_bind h
    obtain ⟨r, hr, ho⟩ := exists_of_mapError_bind h
    cases ho
    exact ⟨rfl, rfl, hkind, r, hr, rfl⟩
  | addDependency name options quote =>
    obtain ⟨hkind, h⟩ := exists_of_checkKind_bind h
    obtain ⟨r, hr, ho⟩ := exists_of_mapError_bind h
    cases ho
    exact ⟨rfl, rfl, hkind, r, hr, rfl⟩

/-- The text of a manifest after an action: the same when its inputs are not valid or it fails. -/
def textAfter (c : Configuration) (p : Path) (t : Text) (a : Action) : Text :=
  match a.check, a.run c p t with
  | .ok _, .ok o => o.text
  | _, _ => t

theorem textAfter_cases (c : Configuration) (p : Path) (t : Text) (a : Action) :
    a.textAfter c p t = t ∨ a.check = .ok () ∧ a.Makes c p t (a.textAfter c p t) := by
  unfold textAfter
  cases hcheck : a.check with
  | error e => exact .inl rfl
  | ok u =>
    cases hrun : a.run c p t with
    | error e => exact .inl rfl
    | ok o => exact .inr ⟨rfl, (makes_of_run hrun).2.2⟩

end Action

/-! ## Requests -/

section Runs

variable {σ ε α β : Type} {x : ExceptT ε (StateM σ) α} {g : α → ExceptT ε (StateM σ) β} {u v : σ}

theorem run_bind_ok {a : α} (h : x.run.run u = (.ok a, v)) :
    (x >>= g).run.run u = (g a).run.run v := by
  rw [ExceptT.run_bind, StateT.run_bind, h]
  rfl

theorem run_bind_error {e : ε} (h : x.run.run u = (.error e, v)) :
    (x >>= g).run.run u = (.error e, v) := by
  rw [ExceptT.run_bind, StateT.run_bind, h]
  rfl

end Runs

theorem run_read {p : Path} {f : FileTree} {t : Text} (h : f.read p = .ok t) :
    (ExceptT.mk do return (← FileTree.storage.read p).mapError (ManifestError.file p)).run.run f =
      (.ok t, f) := by
  show ((f.read p).mapError _, f) = _
  rw [h]
  rfl

namespace Session

/-- The files after a request. -/
def after (s : Session) (f : FileTree) (r : Request) : FileTree :=
  ((s.perform FileTree.storage r).run.run f).2

/-- The files after some actions on the file at one path, one after the other. -/
def afterAll (s : Session) (path : Path) (f : FileTree) (as : List Action) : FileTree :=
  as.foldl (fun f a => s.after f ⟨path, a⟩) f

variable {s : Session} {path : Path} {f : FileTree} {t : Text}

/-- A request whose inputs are not valid, or whose action fails, leaves the files alone. -/
theorem after_of_invalid {e : InputError} {a : Action} (h : a.check = .error e) :
    s.after f ⟨path, a⟩ = f := by
  unfold after perform
  rw [run_bind_error (v := f) (e := .invalidInput e) (by rw [h]; rfl)]

theorem after_of_error {e : ManifestError} {a : Action} (hcheck : a.check = .ok ())
    (hread : f.read (s.resolve path) = .ok t)
    (hrun : a.run s.configuration (s.resolve path) t = .error e) :
    s.after f ⟨path, a⟩ = f := by
  unfold after perform
  rw [run_bind_ok (v := f) (a := ()) (by rw [hcheck]; rfl),
    run_bind_ok (v := f) (a := t) (run_read hread),
    run_bind_error (v := f) (e := e) (by rw [hrun]; rfl)]

theorem after_of_ok {o : Outcome} {a : Action} (hcheck : a.check = .ok ())
    (hread : f.read (s.resolve path) = .ok t)
    (hrun : a.run s.configuration (s.resolve path) t = .ok o) :
    s.after f ⟨path, a⟩ = ((save FileTree.storage o).run.run f).2 := by
  unfold after perform
  rw [run_bind_ok (v := f) (a := ()) (by rw [hcheck]; rfl),
    run_bind_ok (v := f) (a := t) (run_read hread),
    run_bind_ok (v := f) (a := o) (by rw [hrun]; rfl)]
  cases hsave : (save FileTree.storage o).run.run f with
  | mk x f' =>
    cases x with
    | error e => rw [run_bind_error hsave]
    | ok u =>
      rw [run_bind_ok hsave]
      rfl

/-- The file of an outcome has its text when it is saved, whether that has changed or not. -/
theorem read_save {o : Outcome} (h : f.read o.path = .ok o.previous) :
    ((save FileTree.storage o).run.run f).2.read o.path = .ok o.text := by
  by_cases hchanged : o.changed = true
  · obtain ⟨u, hu, hread⟩ := FileTree.read_of_write h o.text
    have hsave : (save FileTree.storage o).run.run f = (.ok (), u) := by
      unfold save
      rw [if_pos hchanged]
      show (fun w : Except FileError Unit × FileTree => (w.1.mapError _, w.2))
        (FileTree.storage.write o.path o.text f) = _
      rw [FileTree.storage_write hu]
      rfl
    rw [hsave]
    exact hread
  · have hsame : o.text = o.previous := by simpa [Outcome.changed] using hchanged
    unfold save
    rw [if_neg hchanged, hsame]
    exact h

/-- A request leaves the file at its path with the text after its action. -/
theorem read_after (h : f.read (s.resolve path) = .ok t) (a : Action) :
    (s.after f ⟨path, a⟩).read (s.resolve path) =
      .ok (a.textAfter s.configuration (s.resolve path) t) := by
  unfold Action.textAfter
  cases hcheck : a.check with
  | error e =>
    rw [after_of_invalid hcheck]
    exact h
  | ok u =>
    cases hrun : a.run s.configuration (s.resolve path) t with
    | error e =>
      rw [after_of_error hcheck h hrun]
      exact h
    | ok o =>
      obtain ⟨hpath, hprevious, -⟩ := Action.makes_of_run hrun
      rw [after_of_ok hcheck h hrun, ← hpath]
      exact read_save (by rw [hpath, hprevious, h])

/-- After some actions the file has the text after each of them in turn. -/
theorem read_afterAll (h : f.read (s.resolve path) = .ok t) (as : List Action) :
    (s.afterAll path f as).read (s.resolve path) =
      .ok (as.foldl (Action.textAfter s.configuration (s.resolve path)) t) := by
  induction as generalizing f t with
  | nil => exact h
  | cons a as ih => exact ih (read_after h a)

end Session

end GemDeps
