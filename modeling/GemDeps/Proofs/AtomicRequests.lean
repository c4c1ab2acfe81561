import GemDeps.Proofs.Requests
import GemDeps.Workspace.Response

/-!
# Requests are carried out whole or not at all

Requests work on a disk: a tree of files, reads and writes of which may fail before anything is read
or written. All that a request can do to a disk is in `Session.perform_cases`: it is refused without
a look at the disk, it fails and leaves the disk alone, it leaves the disk alone since nothing
changes, or it writes one file once. From this `requests_atomic` follows for every step of a run of
requests.
-/

namespace GemDeps

/-! ## Disks -/

/-- Why the files at some paths can be neither read nor written. -/
structure Faults where
  /-- Why the file at a path cannot be read. -/
  reading : Path → Option FileError
  /-- Why the file at a path cannot be written. -/
  writing : Path → Option FileError

/-- Nothing fails. -/
def Faults.none : Faults := ⟨fun _ => Option.none, fun _ => Option.none⟩

/-- A tree of files, with what has been written to it. -/
structure Disk where
  tree : FileTree
  /-- The paths of the files that were written, with their new texts, the last one at the end. -/
  written : List (Path × Text)
  deriving DecidableEq, Repr

namespace Disk

/-- A disk as a store of files. What fails, fails before anything is read or written. -/
def storage (x : Faults) : Storage (StateM Disk) where
  read p := fun d =>
    match x.reading p with
    | some e => (.error e, d)
    | none => ((FileTree.storage.read p d.tree).1, d)
  write p s := fun d =>
    match x.writing p with
    | some e => (.error e, d)
    | none =>
      match FileTree.storage.write p s d.tree with
      | (.ok (), u) => (.ok (), ⟨u, d.written ++ [(p, s)]⟩)
      | (.error e, u) => (.error e, ⟨u, d.written⟩)

section Storage

variable (x : Faults) (d : Disk) (p : Path) (s : Text)

theorem read_cases : (∃ e, ((storage x).read p).run d = (.error e, d)) ∨
    ∃ t, d.tree.read p = .ok t ∧ ((storage x).read p).run d = (.ok t, d) := by
  show (∃ e, (storage x).read p d = _) ∨ ∃ t, _ ∧ (storage x).read p d = _
  dsimp only [storage, FileTree.storage]
  cases x.reading p with
  | some e => exact .inl ⟨e, rfl⟩
  | none =>
    cases d.tree.read p with
    | error e => exact .inl ⟨e, rfl⟩
    | ok t => exact .inr ⟨t, rfl, rfl⟩

theorem write_cases : (∃ e, ((storage x).write p s).run d = (.error e, d)) ∨
    ∃ u, d.tree.write p s = .ok u ∧
      ((storage x).write p s).run d = (.ok (), ⟨u, d.written ++ [(p, s)]⟩) := by
  show (∃ e, (storage x).write p s d = _) ∨ ∃ u, _ ∧ (storage x).write p s d = _
  dsimp only [storage, FileTree.storage]
  cases x.writing p with
  | some e => exact .inl ⟨e, rfl⟩
  | none =>
    cases d.tree.write p s with
    | error e => exact .inl ⟨e, rfl⟩
    | ok u => exact .inr ⟨u, rfl, rfl⟩

end Storage

/-- The second disk is the first with another text in the file at a path: the file was written once,
and it alone. -/
structure Rewritten (p : Path) (s : Text) (d u : Disk) : Prop where
  /-- The path leads to the one place at which something else stands. -/
  place : ∃ place old, d.tree.locate p = .ok place ∧ d.tree.entry? place = some (.text old) ∧
    s ≠ old ∧ u.tree.entry? place = some (.text s) ∧
    ∀ q, q ≠ place → u.tree.entry? q = d.tree.entry? q
  /-- Every path leads where it led. -/
  locate : ∀ q, u.tree.locate q = d.tree.locate q
  written : u.written = d.written ++ [(p, s)]

theorem rewritten_of_write {p : Path} {s old : Text} {d : Disk} {u : FileTree}
    (hread : d.tree.read p = .ok old) (hs : s ≠ old) (hwrite : d.tree.write p s = .ok u) :
    Rewritten p s d ⟨u, d.written ++ [(p, s)]⟩ := by
  obtain ⟨place, hplace, hentry⟩ := FileTree.read_eq_ok_iff.1 hread
  obtain rfl : d.tree.put place s = u := by
    unfold FileTree.write at hwrite
    rw [hread, hplace] at hwrite
    exact Except.ok.inj hwrite
  exact ⟨⟨place, old, hplace, hentry, hs, FileTree.entry?_put_self hentry s,
    fun q hq => FileTree.entry?_put_of_ne hq d.tree s⟩, FileTree.locate_put hentry s, rfl⟩

end Disk

/-! ## One request -/

/-- The response to a request that has been carried out or has failed. -/
def Response.ofResult : Except ManifestError Outcome → Response
  | .ok o => .ofOutcome o
  | .error e => .ofError e

/-- The response reports that the inputs were not valid. -/
structure Response.ReportsInvalidInput (r : Response) : Prop where
  success : r.success = false
  failure : r.failure = some (.inputValidation, "InvalidInput".toList)
  document : r.document = none

theorem Response.reportsInvalidInput_ofError (e : InputError) :
    (Response.ofError (.invalidInput e)).ReportsInvalidInput :=
  ⟨rfl, rfl, rfl⟩

theorem run_mapError {σ ε ε' α : Type} (a : StateM σ (Except ε α)) (f : ε → ε') (u : σ) :
    (ExceptT.mk do return (← a).mapError f : ExceptT ε' (StateM σ) α).run.run u =
      ((a.run u).1.mapError f, (a.run u).2) :=
  rfl

namespace Session

variable {s : Session} {x : Faults} {d : Disk} {r : Request}

/-- What becomes of a request and of the disk that it is carried out on. -/
inductive Performed (s : Session) (d : Disk) (r : Request) :
    Except ManifestError Outcome × Disk → Prop
  /-- Its inputs are not valid. -/
  | refused {e : InputError} (hcheck : r.action.check = .error e) :
    Performed s d r (.error (.invalidInput e), d)
  /-- Reading, editing or writing fails. -/
  | failed (e : ManifestError) (hcheck : r.action.check = .ok ()) : Performed s d r (.error e, d)
  /-- The text of the file stays as it is. -/
  | kept {t : Text} {o : Outcome} (hcheck : r.action.check = .ok ())
    (hread : d.tree.read (s.resolve r.path) = .ok t)
    (hrun : r.action.run s.configuration (s.resolve r.path) t = .ok o)
    (hchanged : o.changed = false) : Performed s d r (.ok o, d)
  /-- The file is written. -/
  | saved {t : Text} {o : Outcome} {u : FileTree} (hcheck : r.action.check = .ok ())
    (hread : d.tree.read (s.resolve r.path) = .ok t)
    (hrun : r.action.run s.configuration (s.resolve r.path) t = .ok o)
    (hchanged : o.changed = true) (hwrite : d.tree.write (s.resolve r.path) o.text = .ok u) :
    Performed s d r (.ok o, ⟨u, d.written ++ [(s.resolve r.path, o.text)]⟩)

/-- An outcome is saved by writing its file once, or by doing nothing when its text is the old
one. -/
theorem save_cases (x : Faults) (d : Disk) (o : Outcome) :
    (∃ e, (save (Disk.storage x) o).run.run d = (.error e, d)) ∨
      (o.changed = false ∧ (save (Disk.storage x) o).run.run d = (.ok (), d)) ∨
      ∃ u, o.changed = true ∧ d.tree.write o.path o.text = .ok u ∧
        (save (Disk.storage x) o).run.run d = (.ok (), ⟨u, d.written ++ [(o.path, o.text)]⟩) := by
  unfold save
  cases hchanged : o.changed with
  | false => exact .inr (.inl ⟨rfl, rfl⟩)
  | true =>
    rw [if_pos rfl, run_mapError]
    rcases Disk.write_cases x d o.path o.text with ⟨e, he⟩ | ⟨u, hwrite, hu⟩
    · rw [he]
      exact .inl ⟨.file o.path e, rfl⟩
    · rw [hu]
      exact .inr (.inr ⟨u, rfl, hwrite, rfl⟩)

/-- All that a request can do. -/
theorem perform_cases (s : Session) (x : Faults) (d : Disk) (r : Request) :
    Performed s d r ((s.perform (Disk.storage x) r).run.run d) := by
  unfold perform
  cases hcheck : r.action.check with
  | error e =>
    rw [run_bind_error (v := d) (e := .invalidInput e) (by rfl)]
    exact .refused hcheck
  | ok _ =>
    rw [run_bind_ok (v := d) (a := ()) (by rfl)]
    rcases Disk.read_cases x d (s.resolve r.path) with ⟨e, he⟩ | ⟨t, hread, ht⟩
    · rw [run_bind_error (e := .file (s.resolve r.path) e) (by rw [run_mapError, he]; rfl)]
      exact .failed _ hcheck
    rw [run_bind_ok (a := t) (by rw [run_mapError, ht]; rfl)]
    cases hrun : r.action.run s.configuration (s.resolve r.path) t with
    | error e =>
      rw [run_bind_error (v := d) (e := e) (by rfl)]
      exact .failed e hcheck
    | ok o =>
      rw [run_bind_ok (v := d) (a := o) (by rfl)]
      obtain ⟨hpath, -, -⟩ := Action.makes_of_run hrun
      rcases save_cases x d o with ⟨e, he⟩ | ⟨hchanged, hsave⟩ | ⟨u, hchanged, hwrite, hsave⟩
      · rw [run_bind_error he]
        exact .failed e hcheck
      · rw [run_bind_ok hsave]
        exact .kept hcheck hread hrun hchanged
      · rw [run_bind_ok hsave, hpath]
        rw [hpath] at hwrite
        exact .saved hcheck hread hrun hchanged hwrite

namespace Performed

variable {a : Except ManifestError Outcome} {u : Disk} {o : Outcome}

theorem eq_of_error {e : ManifestError} (h : Performed s d r (.error e, u)) : u = d := by
  cases h <;> rfl

theorem eq_of_unchanged (h : Performed s d r (.ok o, u)) (ho : o.changed = false) : u = d := by
  cases h with
  | kept => rfl
  | saved _ _ _ hchanged _ =>
    rw [ho] at hchanged
    cases hchanged

/-- The outcome says that the text has changed exactly when the file was written. -/
theorem changed_iff (h : Performed s d r (.ok o, u)) :
    o.changed = true ↔ Disk.Rewritten (s.resolve r.path) o.text d u := by
  constructor
  · intro ho
    cases h with
    | kept _ _ _ hchanged =>
      rw [ho] at hchanged
      cases hchanged
    | saved _ hread hrun hchanged hwrite =>
      obtain ⟨-, hprevious, -⟩ := Action.makes_of_run hrun
      have hne : o.text ≠ o.previous := of_decide_eq_true ho
      rw [hprevious] at hne
      exact Disk.rewritten_of_write hread hne hwrite
  · intro hrewritten
    cases ho : o.changed with
    | true => rfl
    | false =>
      have hwritten := hrewritten.written
      rw [h.eq_of_unchanged ho] at hwritten
      have hlength := congrArg List.length hwritten
      simp at hlength

/-- A request to read leaves the disk alone. -/
theorem eq_of_read {p : Path} {kind : Option Kind} (h : Performed s d ⟨p, .read kind⟩ (a, u)) :
    u = d := by
  cases h with
  | refused => rfl
  | failed => rfl
  | kept => rfl
  | saved _ _ hrun hchanged _ =>
    obtain ⟨-, hprevious, htext⟩ := Action.makes_of_run hrun
    exact (of_decide_eq_true hchanged (htext.trans hprevious.symm)).elim

theorem result_of_refused {e : InputError} (h : Performed s d r (a, u))
    (hcheck : r.action.check = .error e) : a = .error (.invalidInput e) := by
  cases h with
  | refused hcheck' => rw [Except.error.inj (hcheck.symm.trans hcheck')]
  | failed _ hcheck' | kept hcheck' | saved hcheck' =>
    rw [hcheck] at hcheck'
    cases hcheck'

end Performed

/-- A text that is no request is answered without a look at the disk. -/
theorem execute_of_malformed {t : Text} {e : ShapeError} (h : Request.parse t = .error e) :
    (s.execute (Disk.storage x) t).run d =
      (.ofError (.invalidInput (.request e.message)), d) := by
  unfold execute
  rw [h]
  rfl

/-- The response to a request reports what has become of it. -/
theorem execute_of_request {t : Text} (h : Request.parse t = .ok r) :
    (s.execute (Disk.storage x) t).run d =
      (.ofResult ((s.perform (Disk.storage x) r).run.run d).1,
        ((s.perform (Disk.storage x) r).run.run d).2) := by
  unfold execute
  rw [h]
  dsimp only
  rw [StateT.run_bind]
  cases (s.perform (Disk.storage x) r).run.run d with
  | mk a u => cases a <;> rfl

end Session

/-! ## Runs of requests -/

/-- One step of a run of requests. -/
structure Step where
  /-- The disk on which the request was carried out. -/
  before : Disk
  /-- What failed. -/
  faults : Faults
  /-- The text of the request. -/
  input : Text
  response : Response
  /-- The disk afterwards. -/
  after : Disk

namespace Session

/-- Answers some requests, one after the other; each comes with what fails while it is carried
out. -/
def serve (s : Session) (inputs : List (Faults × Text)) : StateM Disk (List Response) :=
  inputs.mapM fun i => s.execute (Disk.storage i.1) i.2

/-- The step in which one request is carried out. -/
def step (s : Session) (d : Disk) (i : Faults × Text) : Step :=
  let x := (s.execute (Disk.storage i.1) i.2).run d
  ⟨d, i.1, i.2, x.1, x.2⟩

/-- The steps of a run of requests. -/
def steps (s : Session) (d : Disk) : List (Faults × Text) → List Step
  | [] => []
  | i :: inputs => s.step d i :: s.steps (s.step d i).after inputs

/-- A run gives the responses of its steps, and leaves the disk that the last of them leaves. -/
theorem run_serve (s : Session) (d : Disk) (inputs : List (Faults × Text)) :
    (s.serve inputs).run d = ((s.steps d inputs).map Step.response,
      ((s.steps d inputs).map Step.after).getLastD d) := by
  induction inputs generalizing d with
  | nil => rfl
  | cons i inputs ih =>
    have hrest : (s.serve inputs).run (s.step d i).after = _ := ih _
    rw [steps, List.map_cons, List.map_cons, List.getLastD_cons]
    unfold serve
    rw [List.mapM_cons, StateT.run_bind]
    show ((s.step d i).response :: ((s.serve inputs).run (s.step d i).after).1,
      ((s.serve inputs).run (s.step d i).after).2) = _
    rw [hrest]

end Session

/-- A step leaves the disk alone or writes one file once, and its response says which. -/
structure Step.IsAtomic (s : Session) (x : Step) : Prop where
  /-- A response that reports a failure comes with a disk on which nothing has changed. -/
  failed : x.response.success = false → x.after = x.before
  /-- Reading changes nothing. -/
  read : ∀ path kind, Request.parse x.input = .ok ⟨path, .read kind⟩ → x.after = x.before
  /-- What a request that is carried out reports has changed exactly when its file was written. -/
  succeeded : ∀ r, Request.parse x.input = .ok r → x.response.success = true → ∃ o,
    (s.perform (Disk.storage x.faults) r).run.run x.before = (.ok o, x.after) ∧
      x.response = .ofOutcome o ∧
      (o.changed = true ↔ Disk.Rewritten (s.resolve r.path) o.text x.before x.after) ∧
      (o.changed = false → x.after = x.before)
  /-- The response to a text that is no request depends on that text alone. -/
  malformed : ∀ e, Request.parse x.input = .error e →
    x.response = .ofError (.invalidInput (.request e.message)) ∧ x.response.ReportsInvalidInput
  /-- The response to a request with inputs that are not valid depends on these alone. -/
  refused : ∀ r e, Request.parse x.input = .ok r → r.action.check = .error e →
    x.response = .ofError (.invalidInput e) ∧ x.response.ReportsInvalidInput

namespace Session

theorem isAtomic_step (s : Session) (d : Disk) (i : Faults × Text) : (s.step d i).IsAtomic s := by
  cases hparse : Request.parse i.2 with
  | error e =>
    have hstep : s.step d i =
        ⟨d, i.1, i.2, .ofError (.invalidInput (.request e.message)), d⟩ := by
      unfold step
      rw [execute_of_malformed hparse]
    have hrequest : ∀ r, Request.parse i.2 ≠ .ok r := fun r hr => by
      rw [hparse] at hr
      cases hr
    rw [hstep]
    exact
      { failed := fun _ => rfl
        read := fun _ _ _ => rfl
        succeeded := fun r hr => (hrequest r hr).elim
        malformed := fun e' he => by
          rw [Except.error.inj (hparse.symm.trans he)]
          exact ⟨rfl, Response.reportsInvalidInput_ofError _⟩
        refused := fun r _ hr => (hrequest r hr).elim }
  | ok r =>
    have hperformed := perform_cases s i.1 d r
    cases hperform : (s.perform (Disk.storage i.1) r).run.run d with
    | mk a u =>
      rw [hperform] at hperformed
      have hstep : s.step d i = ⟨d, i.1, i.2, .ofResult a, u⟩ := by
        unfold step
        rw [execute_of_request hparse, hperform]
      have hrequest : ∀ r', Request.parse i.2 = .ok r' → r = r' := fun r' hr =>
        Except.ok.inj (hparse.symm.trans hr)
      rw [hstep]
      refine
        { failed := fun h => ?_
          read := fun path kind h => ?_
          succeeded := fun r' hr h => ?_
          malformed := fun e he => ?_
          refused := fun r' e hr he => ?_ }
      · cases a with
        | error e => exact hperformed.eq_of_error
        | ok o => cases h
      · obtain rfl := hrequest _ h
        exact hperformed.eq_of_read
      · obtain rfl := hrequest r' hr
        cases a with
        | error e => cases h
        | ok o => exact ⟨o, hperform, rfl, hperformed.changed_iff, hperformed.eq_of_unchanged⟩
      · rw [hparse] at he
        cases he
      · obtain rfl := hrequest r' hr
        rw [hperformed.result_of_refused he]
        exact ⟨rfl, Response.reportsInvalidInput_ofError e⟩

end Session

/-- Every step of a run of requests is atomic, on every disk and whatever fails. -/
theorem requests_atomic (s : Session) (d : Disk) (inputs : List (Faults × Text)) :
    (s.serve inputs).run d = ((s.steps d inputs).map Step.response,
        ((s.steps d inputs).map Step.after).getLastD d) ∧
      ∀ x ∈ s.steps d inputs, x.IsAtomic s := by
  refine ⟨s.run_serve d inputs, ?_⟩
  induction inputs generalizing d with
  | nil => exact List.forall_mem_nil _
  | cons i inputs ih => exact List.forall_mem_cons.2 ⟨s.isAtomic_step d i, ih _⟩

/-- A gem is added, and then three requests fail: one is incomplete, one has a version that is none,
and of the last the file cannot be written. -/
def faultyInputs : List (Faults × Text) :=
  [(.none, "[\"addDeclaration\", \"Gemfile\", \"b\"]".toList),
    (.none, "[\"pin\", \"Gemfile\"]".toList),
    (.none, "[\"pin\", \"Gemfile\", \"b\", \"x\"]".toList),
    (⟨fun _ => none, fun _ => some .permissionDenied⟩,
      "[\"addDeclaration\", \"Gemfile\", \"c\"]".toList)]

/-- The steps of these requests on a disk with one Gemfile. -/
def faultyRun : List Step :=
  Session.steps { workingDirectory := ⟨"/w".toList⟩ }
    ⟨⟨[(["w".toList, "Gemfile".toList], .text "gem 'a'\n".toList)]⟩, []⟩ faultyInputs

/-- Of `faultyRun` only the first step changes the disk, and the next two report their inputs. -/
theorem requests_atomic_faulty :
    (faultyRun.map fun x => (x.response.success, x.after.written.map Prod.snd)) =
        [(true, ["gem 'a'\ngem 'b'\n".toList]), (false, ["gem 'a'\ngem 'b'\n".toList]),
          (false, ["gem 'a'\ngem 'b'\n".toList]), (false, ["gem 'a'\ngem 'b'\n".toList])] ∧
      (faultyRun.map fun x => x.response.failure.map Prod.snd) =
        [none, some "InvalidInput".toList, some "InvalidInput".toList,
          some "PermissionDenied".toList] ∧
      ∀ x ∈ faultyRun.tail, x.after = x.before := by
  have hfailed : ∀ x ∈ faultyRun.tail, x.response.success = false := by decide +kernel
  obtain ⟨-, hatomic⟩ := requests_atomic { workingDirectory := ⟨"/w".toList⟩ }
    ⟨⟨[(["w".toList, "Gemfile".toList], .text "gem 'a'\n".toList)]⟩, []⟩ faultyInputs
  exact ⟨by decide +kernel, by decide +kernel, fun x hx =>
    (hatomic x (List.mem_of_mem_tail hx)).failed (hfailed x hx)⟩

end GemDeps
