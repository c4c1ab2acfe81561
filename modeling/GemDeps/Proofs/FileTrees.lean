import GemDeps.Files.Tree

/-!
# Files after a write

A write changes the text at one place that held a text. It leaves every directory and every name
where it was, so paths lead where they led (`FileTree.follow_put`), and what is read at a path after
a write is what was written there (`FileTree.read_of_write`).
-/

namespace GemDeps.FileTree

variable {t u : FileTree} {place : List Text}

theorem hasBelow_put (t : FileTree) (place q : List Text) (s : Text) :
    (t.put place s).hasBelow q = t.hasBelow q := by
  have hkey : ∀ e : List Text × Entry,
      (if e.1 = place then (place, Entry.text s) else e).1 = e.1 := by
    intro e
    by_cases he : e.1 = place
    · rw [if_pos he, he]
    · rw [if_neg he]
  unfold hasBelow put
  rw [List.any_map]
  refine congrArg (List.any t.entries) (funext fun e => ?_)
  rw [Function.comp, hkey]

/-- The entry at the place of a write is the text, any other is the one it was. -/
theorem lookup_put (entries : List (List Text × Entry)) (place q : List Text) (s : Text) :
    (put ⟨entries⟩ place s).entries.lookup q =
      if q = place then (entries.lookup place).map fun _ => .text s else entries.lookup q := by
  induction entries with
  | nil => exact (ite_self _).symm
  | cons e es ih =>
    obtain ⟨k, x⟩ := e
    change List.lookup q ((if k = place then (place, Entry.text s) else (k, x)) ::
      (put ⟨es⟩ place s).entries) = _
    by_cases hq : q = place
    · subst hq
      rw [if_pos rfl] at ih ⊢
      by_cases hk : k = q
      · rw [if_pos hk, hk, List.lookup_cons_self, List.lookup_cons_self]
        rfl
      · have hne : (q == k) = false := beq_eq_false_iff_ne.2 (Ne.symm hk)
        rw [if_neg hk, List.lookup_cons, List.lookup_cons, hne, ih]
    · rw [if_neg hq] at ih ⊢
      by_cases hk : k = place
      · have hne : (q == place) = false := beq_eq_false_iff_ne.2 hq
        rw [if_pos hk, hk, List.lookup_cons, List.lookup_cons, hne, ih]
      · rw [if_neg hk, List.lookup_cons, List.lookup_cons, ih]

/-- A text stands where it was put. -/
theorem entry?_put_self {x : Text} (h : t.entry? place = some (.text x)) (s : Text) :
    entry? (t.put place s) place = some (.text s) := by
  unfold entry? at h ⊢
  rw [lookup_put, if_pos rfl]
  cases hl : t.entries.lookup place with
  | some e => rfl
  | none =>
    rw [hl] at h
    dsimp only at h
    split at h <;> simp at h

theorem entry?_put_of_ne {q : List Text} (hq : q ≠ place) (t : FileTree) (s : Text) :
    entry? (t.put place s) q = t.entry? q := by
  unfold entry?
  rw [lookup_put, if_neg hq, hasBelow_put]

/-- Names lead where they led. -/
theorem follow_put {x : Text} (h : t.entry? place = some (.text x)) (s : Text)
    (q names : List Text) : (t.put place s).follow q names = t.follow q names := by
  induction names generalizing q with
  | nil => rfl
  | cons name names ih =>
    rw [follow, follow]
    by_cases hq : q = place
    · -- No name leads on from a text, whichever it is.
      rw [hq, entry?_put_self h, h]
    · rw [entry?_put_of_ne hq]
      simp only [ih]

theorem locate_put {x : Text} (h : t.entry? place = some (.text x)) (s : Text) (p : Path) :
    (t.put place s).locate p = t.locate p := by
  unfold locate
  rw [follow_put h]

/-- A file that is read is a text at the place to which its path leads. -/
theorem read_eq_ok_iff {p : Path} {x : Text} :
    t.read p = .ok x ↔ ∃ place, t.locate p = .ok place ∧ t.entry? place = some (.text x) := by
  unfold read
  cases hplace : t.locate p with
  | error e =>
    refine iff_of_false (by rintro ⟨⟩) ?_
    rintro ⟨place, h, -⟩
    cases h
  | ok place =>
    dsimp only [bind, Except.bind]
    cases hentry : t.entry? place with
    | none => simp [hentry]
    | some e => cases e <;> simp [hentry]

/-- A file that is read can be written, and then what was written is read. -/
theorem read_of_write {p : Path} {x : Text} (h : t.read p = .ok x) (s : Text) :
    ∃ u, t.write p s = .ok u ∧ u.read p = .ok s := by
  obtain ⟨place, hplace, hentry⟩ := read_eq_ok_iff.1 h
  refine ⟨t.put place s, ?_, ?_⟩
  · unfold write
    rw [h, hplace]
    rfl
  · rw [read_eq_ok_iff, locate_put hentry]
    exact ⟨place, hplace, entry?_put_self hentry s⟩

/-- A tree as a store is left as the write makes it. -/
theorem storage_write {p : Path} {s : Text} (h : t.write p s = .ok u) :
    storage.write p s t = (.ok (), u) := by
  dsimp only [storage]
  rw [h]

end GemDeps.FileTree
