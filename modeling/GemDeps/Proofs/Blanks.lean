import GemDeps.Text.Blank
import Mathlib.Data.List.TakeWhile

/-!
# Blanks at the ends of texts

What `trimStart`, `trimEnd` and `trim` take away are blanks and nothing else, and what they leave
has none at its ends, so a trimmed text stays as it is when it is trimmed again (`trim_trim`).
-/

namespace GemDeps.Text

/-- Only blanks. -/
def IsBlanks (t : Text) : Prop := ∀ c ∈ t, isBlank c = true

/-! ## At the start -/

theorem isBlanks_indentation (t : Text) : IsBlanks (indentation t) :=
  List.all_eq_true.1 List.all_takeWhile

theorem trimStart_append {b : Text} (hb : IsBlanks b) (t : Text) :
    trimStart (b ++ t) = trimStart t :=
  List.dropWhile_append_of_pos hb

theorem indentation_append {b : Text} (hb : IsBlanks b) (t : Text) :
    indentation (b ++ t) = b ++ indentation t :=
  List.takeWhile_append_of_pos hb

theorem trimStart_cons {c : Char} (hc : isBlank c = false) (t : Text) :
    trimStart (c :: t) = c :: t :=
  List.dropWhile_cons_of_neg (by simp [hc])

theorem indentation_cons {c : Char} (hc : isBlank c = false) (t : Text) :
    indentation (c :: t) = [] :=
  List.takeWhile_cons_of_neg (by simp [hc])

theorem isBlank_of_trimStart {c : Char} {t r : Text} (h : trimStart t = c :: r) :
    isBlank c = false := by
  have := List.head?_dropWhile_not isBlank t
  rw [show t.dropWhile isBlank = c :: r from h] at this
  simpa using this

theorem isBlank_of_head?_trimStart (t : Text) :
    ∀ c ∈ (trimStart t).head?, isBlank c = false := by
  intro c hc
  obtain ⟨r, hr⟩ := List.head?_eq_some_iff.1 hc
  exact isBlank_of_trimStart hr

theorem trimStart_eq_nil_iff {t : Text} : trimStart t = [] ↔ IsBlanks t :=
  List.dropWhile_eq_nil_iff

theorem trimStart_append_of_not_isBlanks {t : Text} (ht : ¬ IsBlanks t) (u : Text) :
    trimStart (t ++ u) = trimStart t ++ u := by
  obtain ⟨c, r, hr⟩ := List.exists_cons_of_ne_nil (mt trimStart_eq_nil_iff.1 ht)
  conv => lhs; rw [← indentation_append_trimStart t, hr]
  rw [List.append_assoc, trimStart_append (isBlanks_indentation t), List.cons_append,
    trimStart_cons (isBlank_of_trimStart hr), hr, List.cons_append]

/-! ## At the end -/

theorem trimEnd_append {b : Text} (hb : IsBlanks b) (t : Text) : trimEnd (t ++ b) = trimEnd t := by
  have hb' : ∀ c ∈ b.reverse, isBlank c = true := fun c hc => hb c (List.mem_reverse.1 hc)
  rw [trimEnd, dropEndWhile, List.reverse_append, List.dropWhile_append_of_pos hb']
  rfl

theorem trimEnd_concat {c : Char} (hc : isBlank c = false) (t : Text) :
    trimEnd (t ++ [c]) = t ++ [c] := by
  rw [trimEnd, dropEndWhile, List.reverse_append, List.reverse_singleton, List.singleton_append,
    List.dropWhile_cons_of_neg (by simp [hc])]
  simp

/-- Behind a character that is no blank, only what follows is trimmed. -/
theorem trimEnd_concat_append {c : Char} (hc : isBlank c = false) (s t : Text) :
    trimEnd (s ++ [c] ++ t) = s ++ [c] ++ trimEnd t := by
  by_cases ht : ∀ d ∈ t.reverse, isBlank d = true
  · rw [trimEnd, dropEndWhile, List.reverse_append, List.dropWhile_append_of_pos ht]
    have hnil : trimEnd t = [] := by
      rw [trimEnd, dropEndWhile, List.dropWhile_eq_nil_iff.2 ht]
      rfl
    rw [hnil, List.append_nil]
    exact trimEnd_concat hc s
  · have hne : t.reverse.dropWhile isBlank ≠ [] := mt List.dropWhile_eq_nil_iff.1 ht
    rw [trimEnd, trimEnd, dropEndWhile, dropEndWhile, List.reverse_append, List.dropWhile_append,
      if_neg (by simpa using hne), List.reverse_append, List.reverse_reverse]

theorem trim_cons {c : Char} (hc : isBlank c = false) (t : Text) :
    trim (c :: t) = c :: trimEnd t := by
  rw [trim, trimStart_cons hc]
  exact trimEnd_concat_append hc [] t

/-- A text is what is left of it and blanks. -/
theorem exists_trimEnd_append (t : Text) : ∃ b, IsBlanks b ∧ t = trimEnd t ++ b := by
  refine ⟨(t.reverse.takeWhile isBlank).reverse, ?_, ?_⟩
  · intro c hc
    exact List.all_eq_true.1 List.all_takeWhile c (List.mem_reverse.1 hc)
  · rw [trimEnd, dropEndWhile, ← List.reverse_append, List.takeWhile_append_dropWhile,
      List.reverse_reverse]

theorem isBlank_of_getLast?_trimEnd {c : Char} {t : Text} (h : (trimEnd t).getLast? = some c) :
    isBlank c = false := by
  have := List.head?_dropWhile_not isBlank t.reverse
  rw [trimEnd, dropEndWhile, List.getLast?_reverse] at h
  rw [h] at this
  simpa using this

/-- What ends in no blank and starts a text with blanks behind it starts the text alone. -/
theorem exists_append_of_append_blanks {w r t b : Text} {c : Char} (hw : w.getLast? = some c)
    (hc : isBlank c = false) (hb : IsBlanks b) (h : w ++ r = t ++ b) :
    ∃ k, t = w ++ k ∧ r = k ++ b := by
  rcases List.append_eq_append_iff.1 h with ⟨k, ht, hr⟩ | ⟨k, hwk, hk⟩
  · exact ⟨k, ht, hr⟩
  · rcases List.eq_nil_or_concat k with rfl | ⟨k, d, rfl⟩
    · exact ⟨[], by simpa using hwk.symm, by simpa using hk.symm⟩
    · rw [List.concat_eq_append] at hwk hk
      rw [hwk, ← List.append_assoc, List.getLast?_concat, Option.some.injEq] at hw
      have hblank := hb d (by simp [hk])
      rw [hw, hc] at hblank
      cases hblank

/-! ## At both ends -/

/-- No blank stands at either end. -/
def IsTrimmed (t : Text) : Prop :=
  (∀ c ∈ t.head?, isBlank c = false) ∧ ∀ c ∈ t.getLast?, isBlank c = false

theorem trim_of_isTrimmed {t : Text} (ht : IsTrimmed t) : trim t = t := by
  cases t with
  | nil => rfl
  | cons c t =>
    obtain ⟨u, d, hu⟩ : ∃ u d, c :: t = u ++ [d] :=
      ⟨_, _, (List.dropLast_concat_getLast (List.cons_ne_nil c t)).symm⟩
    have hd : isBlank d = false := ht.2 d (by simp [hu])
    rw [trim, trimStart_cons (ht.1 c rfl), hu, trimEnd_concat hd]

theorem isTrimmed_trim (t : Text) : IsTrimmed (trim t) := by
  refine ⟨?_, fun c hc => isBlank_of_getLast?_trimEnd hc⟩
  intro c hc
  obtain ⟨b, -, hb⟩ := exists_trimEnd_append (trimStart t)
  obtain ⟨r, hr⟩ : ∃ r, trim t = c :: r := List.head?_eq_some_iff.1 hc
  rw [show trimEnd (trimStart t) = trim t from rfl, hr] at hb
  exact isBlank_of_trimStart hb

theorem trim_trim (t : Text) : trim (trim t) = trim t :=
  trim_of_isTrimmed (isTrimmed_trim t)

/-- A text is what is left of it between blanks. -/
theorem exists_blanks_trim (t : Text) :
    ∃ b b', IsBlanks b ∧ IsBlanks b' ∧ t = b ++ (trim t ++ b') := by
  obtain ⟨b', hb', h⟩ := exists_trimEnd_append (trimStart t)
  refine ⟨indentation t, b', isBlanks_indentation t, hb', ?_⟩
  rw [trim, ← h, indentation_append_trimStart]

theorem trim_append {b b' : Text} (hb : IsBlanks b) (hb' : IsBlanks b') (t : Text) :
    trim (b ++ (t ++ b')) = trim t := by
  rw [trim, trimStart_append hb, trim]
  by_cases ht : IsBlanks t
  · have happ : IsBlanks (t ++ b') := List.forall_mem_append.2 ⟨ht, hb'⟩
    rw [trimStart_eq_nil_iff.2 happ, trimStart_eq_nil_iff.2 ht]
  · rw [trimStart_append_of_not_isBlanks ht, trimEnd_append hb']

theorem trim_blanks_append {b : Text} (hb : IsBlanks b) (t : Text) : trim (b ++ t) = trim t := by
  have h := trim_append hb (List.forall_mem_nil _) t
  rwa [List.append_nil] at h

theorem trim_eq_nil_iff {t : Text} : trim t = [] ↔ IsBlanks t := by
  constructor
  · intro h
    obtain ⟨b, b', hb, hb', ht⟩ := exists_blanks_trim t
    rw [ht, h]
    exact List.forall_mem_append.2 ⟨hb, hb'⟩
  · intro h
    rw [trim, trimStart_eq_nil_iff.2 h]
    rfl

theorem trim_sublist (t : Text) : List.Sublist (trim t) t := by
  obtain ⟨b, b', -, -, ht⟩ := exists_blanks_trim t
  conv => rhs; rw [ht]
  exact (List.sublist_append_left _ b').trans (List.sublist_append_right b _)

/-! ## Words -/

theorem forall_mem_splitOnP {p : Char → Bool} {t w : Text} (hw : w ∈ t.splitOnP p) :
    ∀ c ∈ w, p c = false := by
  induction t generalizing w with
  | nil =>
    obtain rfl : w = [] := by simpa using hw
    simp
  | cons d t ih =>
    rw [List.splitOnP_cons_eq_if_modifyHead] at hw
    split at hw
    · rcases List.mem_cons.1 hw with rfl | hw
      · simp
      · exact ih hw
    · rename_i hd
      cases hs : t.splitOnP p with
      | nil => simp [hs] at hw
      | cons u us =>
        rw [hs] at hw ih
        rcases List.mem_cons.1 hw with rfl | hw
        · exact List.forall_mem_cons.2 ⟨by simpa using hd, ih List.mem_cons_self⟩
        · exact ih (List.mem_cons_of_mem _ hw)

/-- Words are not blank. -/
theorem not_isBlanks_of_mem_words {t w : Text} (hw : w ∈ words t) : ¬ IsBlanks w := by
  obtain ⟨hmem, hne⟩ := List.mem_filter.1 hw
  obtain ⟨c, u, rfl⟩ := List.exists_cons_of_ne_nil (by simpa using hne)
  intro hblank
  have hc := forall_mem_splitOnP hmem c List.mem_cons_self
  rw [hblank c List.mem_cons_self] at hc
  cases hc

end GemDeps.Text
