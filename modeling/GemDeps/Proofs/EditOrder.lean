import GemDeps.Proofs.DeclaredLines
import GemDeps.Proofs.EditedLine
import GemDeps.Proofs.WrittenStatements
import Mathlib.Data.List.Nodup

/-!
# Edits of different gems

An edit of one gem's version writes a line that declares that gem, where it stood, so every other
gem is found where it was, with the statement that it had
(`VersionEdit.declarationToEdit_textAfter`). Hence two edits of different gems give the same text in
either order, and each comes to what it would come to alone (`edits_commute`); a run of edits of
pairwise different gems may be made in any order (`VersionEdit.foldl_textAfter_perm`).
-/

namespace GemDeps

/-! ## Version edits -/

/-- An edit of the version constraints of one gem. -/
inductive VersionEdit
  /-- The constraint is set. -/
  | pin (name constraint : Text) (style : Style)
  /-- The constraints are taken away. -/
  | unpin (name : Text)
  deriving DecidableEq, Repr

namespace VersionEdit

/-- The gem that is edited. -/
def name : VersionEdit → Text
  | pin name _ _ | unpin name => name

/-- The revision that an edit makes; `none` if there is nothing to change. -/
def run (kind : Kind) (t : Text) : VersionEdit → Except RevisionError (Option Revision)
  | pin name constraint style => (GemDeps.pin t kind name constraint style).map some
  | unpin name => GemDeps.unpin t kind name

/-- The text after an edit: as it was if the edit is refused or has nothing to change. -/
def textAfter (kind : Kind) (t : Text) (e : VersionEdit) : Text :=
  match e.run kind t with
  | .ok (some r) => r.text
  | _ => t

/-- What an edit comes to: the lines that it writes, nothing to change, or an error. -/
def outcome (kind : Kind) (t : Text) (e : VersionEdit) :
    Except RevisionError (Option (Nat × Nat)) :=
  (e.run kind t).map (Option.map fun r => (r.firstLine, r.endLine))

/-- A name that every gem may have, and a constraint on one line. -/
def IsProper : VersionEdit → Prop
  | pin name constraint _ => isGemName name = true ∧ '\n' ∉ constraint
  | unpin name => isGemName name = true

/-! ## The line of an edit -/

/-- The line that an edit makes of a statement; `none` if there is nothing to change. -/
def newLine? (s : Statement) : VersionEdit → Option Text
  | pin _ constraint style => some (s.pinned constraint (style.quote.getD s.quote))
  | unpin _ => if hasVersionArgument s.rest then some s.unpinned else none

/-- The line that an edit writes, with its number. -/
def write? (kind : Kind) (t : Text) (e : VersionEdit) :
    Except RevisionError (Option (Nat × Text)) :=
  (declarationToEdit kind t e.name).map fun d => (e.newLine? d.2.2).map fun l => (d.1, l)

variable {kind : Kind} {t line l : Text} {i : Nat} {s : Statement} {e f g : VersionEdit}

theorem run_eq : e.run kind t = (e.write? kind t).map (Option.map fun p => .ofLine t p.1 p.2) := by
  unfold write?
  cases hd : declarationToEdit kind t e.name with
  | error err =>
    cases e with
    | pin name constraint style => exact congrArg (Except.map some) (pin_eq_error_iff.2 hd)
    | unpin name => exact unpin_eq_error_iff.2 hd
  | ok d =>
    obtain ⟨i, line, s⟩ := d
    have hs := declarationToEdit_eq_ok_iff.1 hd
    cases e with
    | pin name constraint style =>
      exact congrArg (Except.map some) (pin_eq_ok_iff.2 ⟨i, line, s, hs, rfl⟩)
    | unpin name =>
      refine (unpin_eq_ok_iff.2 ⟨i, line, s, hs, rfl⟩).trans ?_
      simp only [Except.map, newLine?]
      split <;> rfl

theorem textAfter_of_write? {p : Nat × Text} (h : e.write? kind t = .ok (some p)) :
    e.textAfter kind t = ((LineBuffer.ofText t).replace p.1 p.2).toText := by
  rw [textAfter, run_eq, h]
  rfl

theorem textAfter_of_write?_ne (h : ∀ p, e.write? kind t ≠ .ok (some p)) :
    e.textAfter kind t = t := by
  rw [textAfter, run_eq]
  match hw : e.write? kind t with
  | .error _ | .ok none => rfl
  | .ok (some p) => exact absurd hw (h p)

theorem write?_eq_some_iff {p : Nat × Text} : e.write? kind t = .ok (some p) ↔
    ∃ line s, DeclaredOn kind t e.name p.1 line s ∧ e.newLine? s = some p.2 := by
  obtain ⟨i, l⟩ := p
  unfold write?
  constructor
  · intro h
    cases hd : declarationToEdit kind t e.name with
    | error err =>
      rw [hd] at h
      cases h
    | ok d =>
      rw [hd] at h
      obtain ⟨l', hl, heq⟩ := Option.map_eq_some_iff.1 (Except.ok.inj h)
      cases heq
      exact ⟨d.2.1, d.2.2, declarationToEdit_eq_ok_iff.1 hd, hl⟩
  · rintro ⟨line, s, hs, hl⟩
    rw [declarationToEdit_eq_ok_iff.2 hs]
    simp only [Except.map, hl, Option.map_some]

/-- The line that is written declares the gem. -/
theorem exists_declaredOn (he : e.IsProper) (hs : DeclaredOn kind t e.name i line s)
    (hl : e.newLine? s = some l) :
    FitsLine t i l ∧ ∃ w, DeclaredOn kind (Revision.ofLine t i l).text e.name i l w := by
  cases e with
  | pin name constraint style =>
    obtain ⟨hname, hconstraint⟩ := he
    obtain rfl := Option.some.inj hl
    have hescape : (style.quote.getD s.quote).escape s.name = s.name := by
      rw [hs.name_eq]
      exact escape_of_isGemName hname _
    obtain ⟨hfits, hw⟩ := hs.pinned hconstraint (.inr hescape)
    exact ⟨hfits, _, hw⟩
  | unpin name =>
    obtain ⟨-, hl⟩ := Option.ite_none_right_eq_some.1 hl
    obtain rfl := Option.some.inj hl
    obtain ⟨hfits, hw⟩ := hs.unpinned
    exact ⟨hfits, _, hw⟩

/-- Another gem is found after an edit where it was, with the statement that it had. -/
theorem declarationToEdit_textAfter (he : e.IsProper) {m : Text} (hm : m ≠ e.name) :
    declarationToEdit kind (e.textAfter kind t) m = declarationToEdit kind t m := by
  by_cases h : ∃ p, e.write? kind t = .ok (some p)
  · obtain ⟨p, hp⟩ := h
    obtain ⟨line, s, hs, hl⟩ := write?_eq_some_iff.1 hp
    obtain ⟨hfits, w, hw⟩ := exists_declaredOn he hs hl
    rw [textAfter_of_write? hp]
    exact hs.declarationToEdit_replace hfits hw hm
  · rw [textAfter_of_write?_ne fun p hp => h ⟨p, hp⟩]

theorem write?_textAfter (hf : f.IsProper) (hne : e.name ≠ f.name) :
    e.write? kind (f.textAfter kind t) = e.write? kind t := by
  rw [write?, declarationToEdit_textAfter hf hne, write?]

/-- What an edit comes to is the same after an edit of another gem. -/
theorem outcome_textAfter (hf : f.IsProper) (hne : e.name ≠ f.name) :
    e.outcome kind (f.textAfter kind t) = e.outcome kind t := by
  have hmap : ∀ u, e.outcome kind u =
      (e.write? kind u).map (Option.map fun p => (p.1, p.1 + 1)) := by
    intro u
    rw [outcome, run_eq]
    cases e.write? kind u with
    | error err => rfl
    | ok p => cases p <;> rfl
  rw [hmap, hmap, write?_textAfter hf hne]

theorem textAfter_comm (hf : f.IsProper) (hg : g.IsProper) (hne : f.name ≠ g.name) :
    g.textAfter kind (f.textAfter kind t) = f.textAfter kind (g.textAfter kind t) := by
  by_cases hp : ∃ p, f.write? kind t = .ok (some p)
  · by_cases hq : ∃ q, g.write? kind t = .ok (some q)
    · obtain ⟨p, hp⟩ := hp
      obtain ⟨q, hq⟩ := hq
      obtain ⟨line, s, hs, hl⟩ := write?_eq_some_iff.1 hp
      obtain ⟨line', s', hs', hl'⟩ := write?_eq_some_iff.1 hq
      -- No line declares two gems.
      have hlines : p.1 ≠ q.1 := by
        intro heq
        rw [heq] at hs
        obtain rfl : line = line' := by simpa [hs.line_eq] using hs'.line_eq
        obtain rfl : s = s' := by simpa [hs.isOn.read?_eq] using hs'.isOn.read?_eq
        exact hne (hs.name_eq.symm.trans hs'.name_eq)
      rw [textAfter_of_write? ((write?_textAfter hf hne.symm).trans hq), textAfter_of_write? hp,
        textAfter_of_write? ((write?_textAfter hg hne).trans hp), textAfter_of_write? hq]
      exact LineBuffer.replace_comm (exists_declaredOn hf hs hl).1 (exists_declaredOn hg hs' hl').1
        hlines
    · have hq' : ∀ u, g.write? kind u = g.write? kind t → g.textAfter kind u = u :=
        fun u hu => textAfter_of_write?_ne fun q hw => hq ⟨q, hu.symm.trans hw⟩
      rw [hq' _ (write?_textAfter hf hne.symm), hq' t rfl]
  · have hp' : ∀ u, f.write? kind u = f.write? kind t → f.textAfter kind u = u :=
      fun u hu => textAfter_of_write?_ne fun p hw => hp ⟨p, hu.symm.trans hw⟩
    rw [hp' _ (write?_textAfter hg hne), hp' t rfl]

/-! ## Runs of edits -/

/-- After edits of other gems an edit comes to what it would come to alone. -/
theorem outcome_foldl_textAfter {es : List VersionEdit} (hes : ∀ e ∈ es, e.IsProper)
    (hne : ∀ e ∈ es, f.name ≠ e.name) :
    f.outcome kind (es.foldl (textAfter kind) t) = f.outcome kind t := by
  induction es generalizing t with
  | nil => rfl
  | cons e es ih =>
    obtain ⟨he, hes⟩ := List.forall_mem_cons.1 hes
    obtain ⟨hfe, hne⟩ := List.forall_mem_cons.1 hne
    rw [List.foldl_cons, ih hes hne, outcome_textAfter he hfe]

/-- Edits of pairwise different gems give the same text in any order. -/
theorem foldl_textAfter_perm {es fs : List VersionEdit} (hperm : es.Perm fs)
    (hes : ∀ e ∈ es, e.IsProper) (hnames : (es.map name).Nodup) :
    es.foldl (textAfter kind) t = fs.foldl (textAfter kind) t := by
  refine hperm.foldl_eq' (fun e he f hf u => ?_) t
  by_cases heq : e = f
  · rw [heq]
  · exact textAfter_comm (hes e he) (hes f hf) fun hname =>
      heq (List.inj_on_of_nodup_map hnames he hf hname)

end VersionEdit

/-! ## Two edits -/

/-- Edits of different gems give the same text in either order, and each comes to the same before
and after the other; where one is refused, the other has the effect that it has alone. -/
theorem edits_commute {kind : Kind} {t : Text} {f g : VersionEdit} (hf : f.IsProper)
    (hg : g.IsProper) (hne : f.name ≠ g.name) :
    g.textAfter kind (f.textAfter kind t) = f.textAfter kind (g.textAfter kind t) ∧
      f.outcome kind (g.textAfter kind t) = f.outcome kind t ∧
      g.outcome kind (f.textAfter kind t) = g.outcome kind t ∧
      (∀ e, f.run kind t = .error e →
        g.run kind (f.textAfter kind t) = g.run kind t ∧
          f.textAfter kind (g.textAfter kind t) = g.textAfter kind t) ∧
      ∀ e, g.run kind t = .error e →
        f.run kind (g.textAfter kind t) = f.run kind t ∧
          g.textAfter kind (f.textAfter kind t) = f.textAfter kind t := by
  have hrefused : ∀ {h : VersionEdit} {e}, h.run kind t = .error e → h.textAfter kind t = t := by
    intro h e he
    rw [VersionEdit.textAfter, he]
  refine ⟨VersionEdit.textAfter_comm hf hg hne, VersionEdit.outcome_textAfter hg hne,
    VersionEdit.outcome_textAfter hf hne.symm, ?_, ?_⟩
  · intro e he
    rw [← VersionEdit.textAfter_comm hf hg hne, hrefused he]
    exact ⟨rfl, rfl⟩
  · intro e he
    rw [VersionEdit.textAfter_comm hf hg hne, hrefused he]
    exact ⟨rfl, rfl⟩

/-- One gem pinned in other quotes, and one that has no constraint to take away. -/
theorem edits_commute_requoted :
    let t := "gem 'rack', '1.0'\ngem 'rails' # web\n".toList
    let f := VersionEdit.pin "rack".toList "~> 2.0".toList ⟨some .double, .single, "  ".toList⟩
    let g := VersionEdit.unpin "rails".toList
    f.IsProper ∧ g.IsProper ∧ f.name ≠ g.name ∧
      g.textAfter .gemfile (f.textAfter .gemfile t) =
        f.textAfter .gemfile (g.textAfter .gemfile t) ∧
      f.outcome .gemfile (g.textAfter .gemfile t) = .ok (some (0, 1)) ∧
      g.outcome .gemfile (f.textAfter .gemfile t) = .ok none := by
  intro t f g
  have hf : f.IsProper := ⟨by decide, by decide⟩
  have hg : g.IsProper := by
    show isGemName "rails".toList = true
    decide
  have hne : f.name ≠ g.name := by decide
  obtain ⟨htext, hfirst, hsecond, -⟩ := @edits_commute .gemfile t f g hf hg hne
  have hpinned : f.outcome .gemfile t = .ok (some (0, 1)) := by rfl
  have hunpinned : g.outcome .gemfile t = .ok none := by rfl
  exact ⟨hf, hg, hne, htext, hfirst.trans hpinned, hsecond.trans hunpinned⟩

end GemDeps
