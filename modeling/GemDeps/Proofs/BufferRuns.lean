import GemDeps.Proofs.InsertedLines
import Mathlib.Data.List.Induction
import Mathlib.Data.List.Nodup
import Mathlib.Data.List.ReduceOption

/-!
# Runs of changes to a buffer

A buffer whose lines are replaced and inserted one after the other behaves as the plain list of what
stands on its lines (`buffer_refines_lines`). What carries this through a run is that a line without
a line end is always the last one and may be given one (`IsTidy`). The lines of the text are
followed through the run by their numbers (`originsAfter`): a line that no change replaces is there
as it was, except that an open last line has a line end as soon as something stands behind it.
-/

namespace GemDeps

namespace LineBuffer

/-! ## Changes -/

/-- A change to a buffer. -/
inductive Change
  /-- What stands on line `i` becomes `content`. -/
  | replace (i : Nat) (content : Text)
  /-- Lines are put in front of line `i`, or behind the last line. -/
  | insert (i : Nat) (contents : List Text)
  deriving DecidableEq, Repr

namespace Change

/-- The buffer after a change. -/
def apply (b : LineBuffer) : Change → LineBuffer
  | replace i content => b.replace i content
  | insert i contents => b.insert i contents

/-- The same change to a plain list in which `item` stands for a new line. -/
def applyTo {α : Type} (item : Text → α) (items : List α) : Change → List α
  | replace i content => items.set i (item content)
  | insert i contents => items.take i ++ contents.map item ++ items.drop i

/-- The change names one of `n` lines, or the place behind them, and each of its texts is a line. -/
def Fits (n : Nat) : Change → Prop
  | replace i content => i < n ∧ IsLine content
  | insert i contents => i ≤ n ∧ ∀ l ∈ contents, IsLine l

instance (n : Nat) (c : Change) : Decidable (c.Fits n) :=
  match c with
  | replace _ _ => inferInstanceAs (Decidable (_ ∧ _))
  | insert _ _ => inferInstanceAs (Decidable (_ ∧ _))

end Change

/-- The buffer after some changes. -/
def run (b : LineBuffer) (changes : List Change) : LineBuffer := changes.foldl Change.apply b

/-- A plain list of lines after some changes. -/
def linesAfter (lines : List Text) (changes : List Change) : List Text :=
  changes.foldl (Change.applyTo id) lines

/-- Which of `n` lines each line is after some changes; none for one that a change has written. -/
def originsAfter (n : Nat) (changes : List Change) : List (Option Nat) :=
  changes.foldl (Change.applyTo fun _ => none) ((List.range n).map some)

/-- Each change fits the lines that it is made to. -/
def ChangesFit (lines : List Text) : List Change → Prop
  | [] => True
  | c :: cs => c.Fits lines.length ∧ ChangesFit (c.applyTo id lines) cs

instance decidableChangesFit (lines : List Text) (cs : List Change) :
    Decidable (ChangesFit lines cs) :=
  match cs with
  | [] => isTrue trivial
  | c :: cs =>
    have := decidableChangesFit (c.applyTo id lines) cs
    inferInstanceAs (Decidable (_ ∧ _))

/-- Some change replaces line `k` of the `n` lines that there were at first. -/
def IsReplaced (n : Nat) (changes : List Change) (k : Nat) : Prop :=
  ∃ before i content, before ++ [.replace i content] <+: changes ∧
    (originsAfter n before)[i]? = some (some k)

theorem changesFit_append {lines : List Text} {cs ds : List Change} :
    ChangesFit lines (cs ++ ds) ↔ ChangesFit lines cs ∧ ChangesFit (linesAfter lines cs) ds := by
  induction cs generalizing lines with
  | nil => simp [ChangesFit, linesAfter]
  | cons c cs ih =>
    rw [List.cons_append, ChangesFit, ChangesFit, ih, and_assoc]
    rfl

theorem run_concat (b : LineBuffer) (cs : List Change) (c : Change) :
    b.run (cs ++ [c]) = c.apply (b.run cs) :=
  List.foldl_concat ..

theorem linesAfter_concat (lines : List Text) (cs : List Change) (c : Change) :
    linesAfter lines (cs ++ [c]) = c.applyTo id (linesAfter lines cs) :=
  List.foldl_concat ..

theorem originsAfter_concat (n : Nat) (cs : List Change) (c : Change) :
    originsAfter n (cs ++ [c]) = c.applyTo (fun _ => none) (originsAfter n cs) :=
  List.foldl_concat ..

/-! ## What stands on the lines -/

theorem eq_of_splitLineEnd_open {p : Text} (hp : (splitLineEnd p).2 = .open) :
    (splitLineEnd p).1 = p := by
  have happ := splitLineEnd_append p
  rwa [hp, LineEnd.text, List.append_nil] at happ

/-- A line without a line end is the last one, and a line end behind it stays apart from it. -/
structure IsTidy (b : LineBuffer) : Prop where
  newline_ne : b.newline ≠ .open
  isLine : ∀ j p, b.pieces[j]? = some p → (splitLineEnd p).2 = .open →
    j + 1 = b.length ∧ IsLine p

theorem getElem?_replace (b : LineBuffer) (i j : Nat) (content : Text) :
    (b.replace i content).pieces[j]? =
      if i = j then b.pieces[j]?.map fun p => content ++ (splitLineEnd p).2.text
      else b.pieces[j]? := by
  show (b.pieces.modify i _)[j]? = _
  rw [List.getElem?_modify]
  split <;> cases b.pieces[j]? <;> rfl

theorem length_replace (b : LineBuffer) (i : Nat) (content : Text) :
    (b.replace i content).length = b.length :=
  List.length_modify ..

theorem contents_replace {content : Text} (hcontent : IsLine content) (b : LineBuffer) (i : Nat) :
    (b.replace i content).contents = b.contents.set i content := by
  apply List.ext_getElem?
  intro j
  unfold contents
  rw [List.getElem?_map, getElem?_replace, List.getElem?_set, List.length_map, List.getElem?_map]
  split
  · rename_i hij
    subst hij
    rw [Option.map_map]
    by_cases hi : i < b.pieces.length
    · rw [List.getElem?_eq_getElem hi, if_pos hi]
      simp [IsLine.splitLineEnd_append hcontent]
    · rw [List.getElem?_eq_none (Nat.le_of_not_lt hi), if_neg hi]
      rfl
  · rfl

theorem IsTidy.replace {b : LineBuffer} (hb : b.IsTidy) {content : Text}
    (hcontent : IsLine content) (i : Nat) : (b.replace i content).IsTidy where
  newline_ne := hb.newline_ne
  isLine := by
    intro j p hp hopen
    rw [getElem?_replace] at hp
    rw [length_replace]
    split at hp
    · obtain ⟨q, hq, rfl⟩ := Option.map_eq_some_iff.1 hp
      rw [IsLine.splitLineEnd_append hcontent] at hopen
      dsimp only at hopen
      rw [hopen, LineEnd.text, List.append_nil]
      exact ⟨(hb.isLine j q hq hopen).1, hcontent⟩
    · exact hb.isLine j p hp hopen

/-! ## Inserted lines -/

theorem exists_of_isOpen {b : LineBuffer} (h : b.isOpen = true) :
    ∃ ps p, b.pieces = ps ++ [p] ∧ (splitLineEnd p).2 = .open := by
  rcases List.eq_nil_or_concat b.pieces with hnil | ⟨ps, p, hps⟩
  · simp [isOpen, hnil] at h
  · rw [List.concat_eq_append] at hps
    rw [isOpen_of_pieces hps] at h
    exact ⟨ps, p, hps, of_decide_eq_true h⟩

/-- How lines are inserted: not at all, in front of a line or behind a last line with a line end, or
behind an open last line. -/
theorem insert_cases (b : LineBuffer) (i : Nat) (new : List Text) :
    (new = [] ∧ b.insert i new = b) ∨
      (¬ (i = b.length ∧ b.isOpen = true) ∧
        (b.insert i new).pieces = b.pieces.take i ++ b.terminated new ++ b.pieces.drop i) ∨
      ∃ ps p init l, i = b.length ∧ b.pieces = ps ++ [p] ∧ (splitLineEnd p).2 = .open ∧
        new = init ++ [l] ∧ (b.insert i new).pieces =
          ps ++ [p ++ b.newline.text] ++ b.terminated init ++ [l] := by
  rcases List.eq_nil_or_concat new with rfl | ⟨init, l, rfl⟩
  · exact .inl ⟨rfl, rfl⟩
  · rw [List.concat_eq_append]
    by_cases hopen : i = b.length ∧ b.isOpen = true
    · obtain ⟨ps, p, hps, hp⟩ := exists_of_isOpen hopen.2
      exact .inr (.inr ⟨ps, p, init, l, hopen.1, hps, hp, rfl,
        insert_pieces_behind hps hp hopen.1 init l⟩)
    · exact .inr (.inl ⟨hopen, insert_pieces_between hopen (by simp)⟩)

/-- Closed pieces and a line behind them. -/
theorem isTidy_of_pieces {b : LineBuffer} (hnewline : b.newline ≠ .open) {ps : List Text} {l : Text}
    (h : b.pieces = ps ++ [l]) (hps : ∀ p ∈ ps, (splitLineEnd p).2 ≠ .open) (hl : IsLine l) :
    b.IsTidy := by
  refine ⟨hnewline, fun j p hp hopen => ?_⟩
  rw [h, List.getElem?_append] at hp
  split at hp
  · exact absurd hopen (hps p (List.mem_of_getElem? hp))
  · obtain ⟨hj, hp⟩ := List.getElem?_eq_some_iff.1 hp
    obtain rfl : l = p := by simpa using hp
    rw [List.length_singleton] at hj
    refine ⟨?_, hl⟩
    rw [length, h, List.length_append, List.length_singleton]
    omega

/-- In front of the last piece all are closed. -/
theorem IsTidy.closed {b : LineBuffer} (hb : b.IsTidy) {ps : List Text} {p : Text}
    (h : b.pieces = ps ++ [p]) : ∀ q ∈ ps, (splitLineEnd q).2 ≠ .open := by
  intro q hq hopen
  obtain ⟨j, hj⟩ := List.getElem?_of_mem hq
  have hlt := (List.getElem?_eq_some_iff.1 hj).1
  have hlast := (hb.isLine j q (by rw [h, List.getElem?_append_left hlt, hj]) hopen).1
  rw [length, h, List.length_append, List.length_singleton] at hlast
  omega

theorem IsTidy.isLine_of_pieces {b : LineBuffer} (hb : b.IsTidy) {ps : List Text} {p : Text}
    (h : b.pieces = ps ++ [p]) (hp : (splitLineEnd p).2 = .open) : IsLine p :=
  (hb.isLine ps.length p (by rw [h, List.getElem?_concat_length]) hp).2

section Insert

variable {b : LineBuffer} {i : Nat} {new : List Text}

theorem newline_insert (b : LineBuffer) (i : Nat) (new : List Text) :
    (b.insert i new).newline = b.newline := by
  unfold insert
  split_ifs <;> rfl

theorem contents_insert (hb : b.IsTidy) (hnew : ∀ l ∈ new, IsLine l) :
    (b.insert i new).contents = b.contents.take i ++ new ++ b.contents.drop i := by
  rcases insert_cases b i new with ⟨rfl, h⟩ | ⟨-, h⟩ | ⟨ps, p, init, l, rfl, hps, hp, rfl, h⟩
  · rw [h, List.append_nil, List.take_append_drop]
  · unfold contents
    rw [h, List.map_append, List.map_append, map_splitLineEnd_terminated hnew, List.map_take,
      List.map_drop]
  · obtain ⟨hinit, hl⟩ := List.forall_mem_append.1 hnew
    have hline := IsLine.splitLineEnd_append (hb.isLine_of_pieces hps hp) b.newline
    have hopen := IsLine.splitLineEnd_append (List.forall_mem_singleton.1 hl) .open
    rw [LineEnd.text, List.append_nil] at hopen
    have hlength : b.contents.length = b.length := List.length_map _
    rw [List.take_of_length_le hlength.le, List.drop_of_length_le hlength.le, List.append_nil]
    unfold contents
    rw [h, hps]
    simp only [List.map_append, List.map_singleton, map_splitLineEnd_terminated hinit, hline,
      eq_of_splitLineEnd_open hp, hopen, List.append_assoc]

theorem length_insert (hb : b.IsTidy) (hi : i ≤ b.length) (hnew : ∀ l ∈ new, IsLine l) :
    (b.insert i new).length = b.length + new.length := by
  have hlength : ∀ c : LineBuffer, c.length = c.contents.length := fun c => (List.length_map _).symm
  rw [hlength] at hi
  rw [hlength, contents_insert hb hnew, hlength, List.length_append, List.length_append,
    List.length_take_of_le hi, List.length_drop]
  omega

/-- An open piece behind which nothing stands makes the buffer open. -/
theorem isOpen_of_getElem? {j : Nat} {p : Text} (hp : b.pieces[j]? = some p)
    (hj : j + 1 = b.length) (hopen : (splitLineEnd p).2 = .open) : b.isOpen = true := by
  have hlast : b.pieces.getLast? = some p := by
    rw [List.getLast?_eq_getElem?, ← hp, show b.pieces.length = j + 1 from hj.symm]
    rfl
  rw [isOpen, hlast]
  exact decide_eq_true hopen

theorem getElem?_between {α : Type} {as : List α} (hi : i ≤ as.length) (bs : List α) (j : Nat) :
    (as.take i ++ bs ++ as.drop i)[j]? =
      if j < i then as[j]? else if j < i + bs.length then bs[j - i]? else as[j - bs.length]? := by
  have htake : (as.take i).length = i := List.length_take_of_le hi
  rw [List.append_assoc, List.getElem?_append, htake]
  split
  · rename_i hj
    exact List.getElem?_take_of_lt hj
  · rename_i hj
    rw [List.getElem?_append]
    by_cases hnew : j < i + bs.length
    · rw [if_pos (by omega), if_pos hnew]
    · rw [if_neg (by omega), if_neg hnew, List.getElem?_drop]
      congr 1
      omega

theorem terminated_ne_open (hb : b.IsTidy) (hnew : ∀ l ∈ new, IsLine l) :
    ∀ p ∈ b.terminated new, (splitLineEnd p).2 ≠ .open := by
  intro p hp
  rw [splitLineEnd_snd, lineEnd_terminated hnew p hp]
  exact hb.newline_ne

theorem IsTidy.insert (hb : b.IsTidy) (hi : i ≤ b.length) (hnew : ∀ l ∈ new, IsLine l) :
    (b.insert i new).IsTidy := by
  have hnewline : (b.insert i new).newline ≠ .open := by
    rw [newline_insert]
    exact hb.newline_ne
  rcases insert_cases b i new with ⟨-, h⟩ | ⟨hend, h⟩ | ⟨ps, p, init, l, -, hps, hp, rfl, h⟩
  · rwa [h]
  · refine ⟨hnewline, fun j q hq hopen => ?_⟩
    have hlength : (b.terminated new).length = new.length := List.length_map _
    rw [h, getElem?_between hi, hlength] at hq
    rw [length_insert hb hi hnew]
    split at hq
    · obtain ⟨hj, -⟩ := hb.isLine j q hq hopen
      exact absurd ⟨by omega, isOpen_of_getElem? hq hj hopen⟩ hend
    · split at hq
      · exact absurd hopen (terminated_ne_open hb hnew q (List.mem_of_getElem? hq))
      · obtain ⟨hj, hline⟩ := hb.isLine _ q hq hopen
        exact ⟨by omega, hline⟩
  · obtain ⟨hinit, hl⟩ := List.forall_mem_append.1 hnew
    refine isTidy_of_pieces hnewline h ?_ (List.forall_mem_singleton.1 hl)
    rw [List.forall_mem_append, List.forall_mem_append, List.forall_mem_singleton]
    refine ⟨⟨hb.closed hps, ?_⟩, terminated_ne_open hb hinit⟩
    rw [IsLine.splitLineEnd_append (hb.isLine_of_pieces hps hp)]
    exact hb.newline_ne

end Insert

/-! ## Lines that stay -/

/-- How piece `p` of a text stands on line `j`: an open one has a line end once something stands
behind it. -/
def carried (b : LineBuffer) (j : Nat) (p : Text) : Text :=
  if (splitLineEnd p).2 = .open ∧ j + 1 < b.length then p ++ b.newline.text else p

/-- Each line that has an origin is the piece from there. -/
structure Carries (b : LineBuffer) (old : List Text) (origins : List (Option Nat)) : Prop where
  length_eq : origins.length = b.length
  piece_eq : ∀ j k p, origins[j]? = some (some k) → old[k]? = some p →
    b.pieces[j]? = some (b.carried j p)

theorem Carries.replace {b : LineBuffer} {old : List Text} {origins : List (Option Nat)}
    (h : b.Carries old origins) (i : Nat) (content : Text) :
    (b.replace i content).Carries old (origins.set i none) where
  length_eq := by rw [List.length_set, length_replace, h.length_eq]
  piece_eq := by
    intro j k p hj hk
    rw [List.getElem?_set] at hj
    rw [getElem?_replace]
    split at hj
    · simp at hj
    · rename_i hij
      rw [if_neg hij, h.piece_eq j k p hj hk, carried, carried, length_replace]
      rfl

section Insert

variable {b : LineBuffer} {old new : List Text} {origins : List (Option Nat)} {i j k : Nat}
  {p : Text}

theorem carried_eq_of_iff {b b' : LineBuffer} {j' : Nat} (hnewline : b'.newline = b.newline)
    (h : (splitLineEnd p).2 = .open → (j' + 1 < b'.length ↔ j + 1 < b.length)) :
    b'.carried j' p = b.carried j p := by
  unfold carried
  rw [hnewline]
  exact if_congr (and_congr_right h) rfl rfl

/-- Which line of a buffer an origin is on after lines were inserted. -/
theorem getElem?_origins (hi : i ≤ origins.length)
    (h : (origins.take i ++ new.map (fun _ => none) ++ origins.drop i)[j]? = some (some k)) :
    (j < i ∧ origins[j]? = some (some k)) ∨
      (i + new.length ≤ j ∧ origins[j - new.length]? = some (some k)) := by
  rw [getElem?_between hi, List.length_map] at h
  split at h
  · rename_i hj
    exact .inl ⟨hj, h⟩
  · split at h
    · rw [List.getElem?_map, Option.map_eq_some_iff] at h
      obtain ⟨l, -, hl⟩ := h
      cases hl
    · exact .inr ⟨by omega, h⟩

/-- Between closed lines, a line moves and stays as it is. -/
theorem Carries.between (h : b.Carries old origins) (hb : b.IsTidy) (hi : i ≤ b.length)
    (hnew : ∀ l ∈ new, IsLine l) (hend : ¬ (i = b.length ∧ b.isOpen = true))
    (hins : (b.insert i new).pieces = b.pieces.take i ++ b.terminated new ++ b.pieces.drop i)
    (hj : (origins.take i ++ new.map (fun _ => none) ++ origins.drop i)[j]? = some (some k))
    (hk : old[k]? = some p) :
    (b.insert i new).pieces[j]? = some ((b.insert i new).carried j p) := by
  have hlength : (b.terminated new).length = new.length := List.length_map _
  rw [hins, getElem?_between hi, hlength]
  rcases getElem?_origins (h.length_eq.symm ▸ hi) hj with ⟨hlt, hj⟩ | ⟨hle, hj⟩
  · have hpiece := h.piece_eq j k p hj hk
    rw [if_pos hlt, hpiece, carried_eq_of_iff (newline_insert b i new) fun hopen => ?_]
    rw [length_insert hb hi hnew]
    refine ⟨fun _ => ?_, fun _ => by omega⟩
    by_contra hlast
    rw [carried, if_neg fun hcond => hlast hcond.2] at hpiece
    exact hend ⟨by omega, isOpen_of_getElem? hpiece (by omega) hopen⟩
  · have hpiece := h.piece_eq _ k p hj hk
    rw [if_neg (by omega), if_neg (by omega), hpiece,
      carried_eq_of_iff (newline_insert b i new) fun _ => ?_]
    rw [length_insert hb hi hnew]
    omega

/-- Behind an open last line, that line is given a line end, and the others stay as they are. -/
theorem Carries.behind (h : b.Carries old origins) (hb : b.IsTidy) {ps init : List Text}
    {q l : Text} (hnew : ∀ l' ∈ init ++ [l], IsLine l') (hps : b.pieces = ps ++ [q])
    (hq : (splitLineEnd q).2 = .open)
    (hins : (b.insert b.length (init ++ [l])).pieces =
      ps ++ [q ++ b.newline.text] ++ b.terminated init ++ [l])
    (hj : (origins.take b.length ++ (init ++ [l]).map (fun _ => none) ++
      origins.drop b.length)[j]? = some (some k))
    (hk : old[k]? = some p) :
    (b.insert b.length (init ++ [l])).pieces[j]? =
      some ((b.insert b.length (init ++ [l])).carried j p) := by
  have hlength : b.length = ps.length + 1 := by
    rw [length, hps, List.length_append, List.length_singleton]
  obtain ⟨hlt, hj⟩ : j < b.length ∧ origins[j]? = some (some k) := by
    rcases getElem?_origins h.length_eq.ge hj with hlt | ⟨hle, hj⟩
    · exact hlt
    · have := (List.getElem?_eq_some_iff.1 hj).1
      rw [h.length_eq] at this
      omega
  have hpiece := h.piece_eq j k p hj hk
  have hbehind : j + 1 < (b.insert b.length (init ++ [l])).length := by
    rw [length_insert hb le_rfl hnew, List.length_append, List.length_singleton]
    omega
  rw [hins, List.append_assoc]
  by_cases hlast : j < ps.length
  · rw [List.getElem?_append_left (by simp; omega), List.getElem?_append_left hlast]
    rw [hps, List.getElem?_append_left hlast] at hpiece
    rw [hpiece, carried_eq_of_iff (j := j) (newline_insert ..) fun _ =>
      iff_of_true hbehind (by omega)]
  · obtain rfl : j = ps.length := by omega
    have hcarried : b.carried ps.length p = p := if_neg fun hcond => by omega
    rw [hps, List.getElem?_concat_length, hcarried] at hpiece
    obtain rfl : q = p := Option.some.inj hpiece
    rw [List.getElem?_append_left (by simp), List.getElem?_concat_length, carried,
      if_pos ⟨hq, hbehind⟩, newline_insert]

theorem Carries.insert (h : b.Carries old origins) (hb : b.IsTidy) (hi : i ≤ b.length)
    (hnew : ∀ l ∈ new, IsLine l) :
    (b.insert i new).Carries old (origins.take i ++ new.map (fun _ => none) ++ origins.drop i) := by
  have hi' : i ≤ origins.length := h.length_eq.symm ▸ hi
  constructor
  · rw [length_insert hb hi hnew, ← h.length_eq, List.length_append, List.length_append,
      List.length_take_of_le hi', List.length_drop, List.length_map]
    omega
  · intro j k p hj hk
    rcases insert_cases b i new with ⟨rfl, hins⟩ | ⟨hend, hins⟩ |
      ⟨ps, q, init, l, rfl, hps, hq, rfl, hins⟩
    · rw [List.map_nil, List.append_nil, List.take_append_drop] at hj
      rw [hins]
      exact h.piece_eq j k p hj hk
    · exact h.between hb hi hnew hend hins hj hk
    · exact h.behind hb hnew hps hq hins hj hk

end Insert

/-! ## Which lines stay -/

theorem isReplaced_concat {n k : Nat} {cs : List Change} {c : Change} :
    IsReplaced n (cs ++ [c]) k ↔ IsReplaced n cs k ∨
      ∃ i content, c = .replace i content ∧ (originsAfter n cs)[i]? = some (some k) := by
  unfold IsReplaced
  constructor
  · rintro ⟨before, i, content, hprefix, hi⟩
    rcases List.prefix_concat_iff.1 hprefix with heq | hprefix
    · obtain ⟨rfl, rfl⟩ : before = cs ∧ Change.replace i content = c := by simpa using heq
      exact .inr ⟨i, content, rfl, hi⟩
    · exact .inl ⟨before, i, content, hprefix, hi⟩
  · rintro (⟨before, i, content, hprefix, hi⟩ | ⟨i, content, rfl, hi⟩)
    · exact ⟨before, i, content, hprefix.trans (List.prefix_append _ _), hi⟩
    · exact ⟨cs, i, content, List.prefix_rfl, hi⟩

namespace Change

variable {origins : List (Option Nat)}

theorem reduceOption_insert (i : Nat) (contents : List Text) :
    ((insert i contents).applyTo (fun _ => none) origins).reduceOption = origins.reduceOption := by
  rw [applyTo, List.map_const', List.reduceOption_append, List.reduceOption_append,
    List.reduceOption_replicate_none, List.append_nil, ← List.reduceOption_append,
    List.take_append_drop]

/-- A replaced line is taken out of those that stay. -/
theorem reduceOption_replace (hnodup : origins.reduceOption.Nodup) (i : Nat) (content : Text) :
    ((replace i content).applyTo (fun _ => none) origins).reduceOption =
      origins.reduceOption.filter fun k => origins[i]? ≠ some (some k) := by
  rw [applyTo]
  by_cases hi : i < origins.length
  · have hsplit : origins = origins.take i ++ origins[i] :: origins.drop (i + 1) := by simp
    rw [List.set_eq_take_append_cons_drop, if_pos hi, List.getElem?_eq_getElem hi]
    generalize origins[i] = o at hsplit
    generalize origins.take i = as, origins.drop (i + 1) = bs at hsplit
    subst hsplit
    rw [List.reduceOption_append, List.reduceOption_append, List.reduceOption_cons_of_none]
    cases o with
    | none => simp [List.reduceOption_cons_of_none]
    | some m =>
      rw [List.reduceOption_append, List.reduceOption_cons_of_some] at hnodup
      rw [List.reduceOption_cons_of_some, List.filter_append, List.filter_cons_of_neg (by simp)]
      -- The number occurs once, so nothing else is filtered out.
      have hm := List.nodup_middle.1 hnodup
      rw [List.nodup_cons, List.mem_append, not_or] at hm
      rw [List.filter_eq_self.2, List.filter_eq_self.2]
      · rintro k hk
        simpa using fun h : m = k => hm.1.2 (h ▸ hk)
      · rintro k hk
        simpa using fun h : m = k => hm.1.1 (h ▸ hk)
  · rw [List.set_eq_of_length_le (Nat.le_of_not_lt hi),
      List.getElem?_eq_none (Nat.le_of_not_lt hi), List.filter_eq_self.2 (by simp)]

theorem sublist_applyTo (hnodup : origins.reduceOption.Nodup) (c : Change) :
    (c.applyTo (fun _ => none) origins).reduceOption.Sublist origins.reduceOption := by
  cases c with
  | replace i content =>
    rw [reduceOption_replace hnodup]
    exact List.filter_sublist
  | insert i contents => rw [reduceOption_insert]

theorem some_mem_applyTo_iff (hnodup : origins.reduceOption.Nodup) (c : Change) (k : Nat) :
    some k ∈ c.applyTo (fun _ => none) origins ↔ some k ∈ origins ∧
      ¬ ∃ i content, c = replace i content ∧ origins[i]? = some (some k) := by
  rw [← List.reduceOption_mem_iff, ← List.reduceOption_mem_iff]
  cases c with
  | replace i content =>
    rw [reduceOption_replace hnodup, List.mem_filter, decide_eq_true_iff]
    simp
  | insert i contents =>
    rw [reduceOption_insert]
    simp

end Change

/-- The lines of the text that stay are in their order. -/
theorem sublist_originsAfter (n : Nat) (cs : List Change) :
    (originsAfter n cs).reduceOption.Sublist (List.range n) := by
  induction cs using List.reverseRecOn with
  | nil =>
    show ((List.range n).map some).reduceOption.Sublist _
    rw [List.reduceOption, List.filterMap_map, Function.id_comp, List.filterMap_some]
  | append_singleton cs c ih =>
    rw [originsAfter_concat]
    exact (Change.sublist_applyTo (List.nodup_range.sublist ih) c).trans ih

/-- A line of the text stays exactly when no change replaces it. -/
theorem some_mem_originsAfter_iff {n k : Nat} {cs : List Change} :
    some k ∈ originsAfter n cs ↔ k < n ∧ ¬ IsReplaced n cs k := by
  induction cs using List.reverseRecOn with
  | nil => simp [originsAfter, IsReplaced]
  | append_singleton cs c ih =>
    have hnodup := List.nodup_range.sublist (sublist_originsAfter n cs)
    rw [originsAfter_concat, Change.some_mem_applyTo_iff hnodup, ih, isReplaced_concat, not_or,
      and_assoc]

/-! ## Runs -/

theorem isTidy_ofText {t : Text} (ht : t.getLast? ≠ some '\r') : (ofText t).IsTidy := by
  refine ⟨newlineOf_ne_open _, fun j p hp hopen => ?_⟩
  rcases (Text.isCut_pieces t).isFull_or_isOpen hp with hfull | ⟨hp', hj⟩
  · exact absurd hopen (splitLineEnd_ne_open hfull)
  · refine ⟨hj, hp'.2, ?_⟩
    have hlast : (Text.pieces t).getLast? = some p := by
      rw [List.getLast?_eq_getElem?, ← hj, Nat.add_sub_cancel]
      exact hp
    obtain ⟨ps, hps⟩ := List.getLast?_eq_some_iff.1 hlast
    rwa [← Text.flatten_pieces t, hps, List.flatten_append, List.flatten_singleton,
      List.getLast?_append_of_ne_nil _ hp'.1] at ht

/-- What one change keeps: the buffer stays tidy, says what the plain list says, and carries the
lines of the text that stay. -/
theorem step {b : LineBuffer} {lines old : List Text} {origins : List (Option Nat)}
    (hb : b.IsTidy) (hcontents : b.contents = lines) (hcarries : b.Carries old origins) {c : Change}
    (hc : c.Fits lines.length) :
    (c.apply b).newline = b.newline ∧ (c.apply b).IsTidy ∧
      (c.apply b).contents = c.applyTo id lines ∧
      (c.apply b).Carries old (c.applyTo (fun _ => none) origins) := by
  subst hcontents
  have hlength : b.contents.length = b.length := List.length_map _
  cases c with
  | replace i content =>
    obtain ⟨-, hline⟩ := hc
    exact ⟨rfl, hb.replace hline i, contents_replace hline b i, hcarries.replace i content⟩
  | insert i contents =>
    obtain ⟨hi, hlines⟩ := hc
    rw [hlength] at hi
    refine ⟨newline_insert .., hb.insert hi hlines, ?_, hcarries.insert hb hi hlines⟩
    show (b.insert i contents).contents = _
    rw [contents_insert hb hlines, Change.applyTo, List.map_id]

theorem carries_ofText (t : Text) : (ofText t).Carries (Text.pieces t)
    (originsAfter (Text.lines t).length []) := by
  have horigins : originsAfter (Text.lines t).length [] =
      (List.range (Text.pieces t).length).map some := by
    rw [← length_lines]
    rfl
  rw [horigins]
  constructor
  · rw [List.length_map, List.length_range]
    rfl
  · intro j k p hj hk
    obtain ⟨hlt, hjk⟩ := List.getElem?_eq_some_iff.1 hj
    obtain rfl : j = k := by simpa using hjk
    have hcarried : (ofText t).carried j p = p := by
      refine if_neg ?_
      rintro ⟨hopen, hlt⟩
      rcases (Text.isCut_pieces t).isFull_or_isOpen hk with hfull | ⟨-, hlast⟩
      · exact splitLineEnd_ne_open hfull hopen
      · exact Nat.ne_of_lt hlt hlast
    rw [hcarried]
    exact hk

/-- What a run keeps. -/
theorem run_spec {t : Text} (ht : t.getLast? ≠ some '\r') {cs : List Change}
    (hcs : ChangesFit (Text.lines t) cs) :
    ((ofText t).run cs).newline = (ofText t).newline ∧ ((ofText t).run cs).IsTidy ∧
      ((ofText t).run cs).contents = linesAfter (Text.lines t) cs ∧
      ((ofText t).run cs).Carries (Text.pieces t) (originsAfter (Text.lines t).length cs) := by
  induction cs using List.reverseRecOn with
  | nil => exact ⟨rfl, isTidy_ofText ht, contents_ofText t, carries_ofText t⟩
  | append_singleton cs c ih =>
    obtain ⟨hcs, hc, -⟩ := changesFit_append.1 hcs
    obtain ⟨hnewline, htidy, hcontents, hcarries⟩ := ih hcs
    obtain ⟨hnewline', h⟩ := step htidy hcontents hcarries hc
    rw [run_concat, linesAfter_concat, originsAfter_concat]
    exact ⟨hnewline'.trans hnewline, h⟩

/-- What a buffer of the text `t` keeps through some changes. -/
structure KeepsText (t : Text) (made : List Change) : Prop where
  /-- It says what the plain list of lines says after the same changes. -/
  contents_eq : ((ofText t).run made).contents = linesAfter (Text.lines t) made
  /-- Only the last line may lack a line end. -/
  open_last : ∀ j p, ((ofText t).run made).pieces[j]? = some p → Text.lineEnd p = .open →
    j + 1 = ((ofText t).run made).length
  /-- The lines of the text that stay are those that no change has replaced. -/
  stays_iff : ∀ k, some k ∈ originsAfter (Text.lines t).length made ↔
    k < (Text.lines t).length ∧ ¬ IsReplaced (Text.lines t).length made k
  /-- They stay in their order. -/
  in_order : (originsAfter (Text.lines t).length made).reduceOption.Sublist
    (List.range (Text.lines t).length)
  /-- They stay as they are, except that an open last line has the line end of the first line once
  something stands behind it. -/
  piece_eq : ∀ j k p, (originsAfter (Text.lines t).length made)[j]? = some (some k) →
    (Text.pieces t)[k]? = some p → ((ofText t).run made).pieces[j]? = some
      (if Text.lineEnd p = .open ∧ j + 1 < ((ofText t).run made).length then
        p ++ (Text.newlineEnd t).text else p)

/-- A buffer says line by line what its text says, and gives the text back. When the text does not
end in a carriage return, this goes on through any run of changes that fit: after each of them the
buffer says what the plain list says, and keeps the lines of the text that were not replaced. -/
theorem buffer_refines_lines (t : Text) :
    (ofText t).contents = Text.lines t ∧ (ofText t).toText = t ∧
      (t.getLast? ≠ some '\r' → ∀ changes, ChangesFit (Text.lines t) changes →
        ∀ made, made <+: changes → KeepsText t made) := by
  refine ⟨contents_ofText t, toText_ofText t, fun ht changes hfit made hmade => ?_⟩
  obtain ⟨rest, rfl⟩ := hmade
  obtain ⟨hnewline, htidy, hcontents, hcarries⟩ := run_spec ht (changesFit_append.1 hfit).1
  refine ⟨hcontents, fun j p hp hopen => ?_, fun k => some_mem_originsAfter_iff,
    sublist_originsAfter _ made, fun j k p hj hk => ?_⟩
  · rw [← splitLineEnd_snd] at hopen
    exact (htidy.isLine j p hp hopen).1
  · rw [hcarries.piece_eq j k p hj hk, carried, hnewline, newline_ofText, splitLineEnd_snd]

/-- Lines behind an open last line, a line replaced, and a line in front. -/
def mixedChanges : List Change :=
  [.insert 2 ["c".toList, "d".toList], .replace 0 "x".toList, .insert 0 ["y".toList]]

theorem buffer_refines_lines_mixed :
    ("a\r\nb".toList.getLast? ≠ some '\r' ∧
      ChangesFit (Text.lines "a\r\nb".toList) mixedChanges ∧
      KeepsText "a\r\nb".toList mixedChanges ∧
      ((ofText "a\r\nb".toList).run mixedChanges).toText = "y\r\nx\r\nb\r\nc\r\nd".toList) ∧
    "a\nb".toList.getLast? ≠ some '\r' ∧ ChangesFit (Text.lines "a\nb".toList) mixedChanges ∧
      KeepsText "a\nb".toList mixedChanges ∧
      ((ofText "a\nb".toList).run mixedChanges).toText = "y\nx\nb\nc\nd".toList := by
  have hkeeps : ∀ t : Text, t.getLast? ≠ some '\r' → ChangesFit (Text.lines t) mixedChanges →
      KeepsText t mixedChanges := fun t hlast hfit =>
    (buffer_refines_lines t).2.2 hlast _ hfit _ List.prefix_rfl
  have hcrlf : "a\r\nb".toList.getLast? ≠ some '\r' ∧
      ChangesFit (Text.lines "a\r\nb".toList) mixedChanges := by decide
  have hlf : "a\nb".toList.getLast? ≠ some '\r' ∧
      ChangesFit (Text.lines "a\nb".toList) mixedChanges := by decide
  exact ⟨⟨hcrlf.1, hcrlf.2, hkeeps _ hcrlf.1 hcrlf.2, by decide⟩,
    hlf.1, hlf.2, hkeeps _ hlf.1 hlf.2, by decide⟩

end LineBuffer

end GemDeps
