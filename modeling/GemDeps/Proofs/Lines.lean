import GemDeps.Revision.LineBuffer
import Mathlib.Data.List.Basic

/-!
# Lines and pieces

A text seen as lines and as pieces is cut at the same places: the contents of the pieces are the
lines (`map_splitLineEnd_pieces`). A list of texts is a cut when it consists of full lines and
possibly an open last one; the cuts are the lists that `Text.pieces` gives back
(`pieces_flatten`), so an edit that leaves a cut is read again piece by piece as it was made.
-/

namespace GemDeps

namespace Text

/-! ## Full and open lines -/

/-- A line with its line feed. -/
def IsFull (p : Text) : Prop := ∃ l, '\n' ∉ l ∧ p = l ++ ['\n']

/-- A line, not empty, on which a text ends without a line feed. -/
def IsOpen (p : Text) : Prop := p ≠ [] ∧ '\n' ∉ p

/-- Full lines and possibly an open one after them. -/
def IsCut : List Text → Prop
  | [] => True
  | p :: ps => (IsFull p ∧ IsCut ps) ∨ (IsOpen p ∧ ps = [])

theorem IsFull.cons {c : Char} {p : Text} (hc : c ≠ '\n') (hp : IsFull p) : IsFull (c :: p) := by
  obtain ⟨l, hl, rfl⟩ := hp
  exact ⟨c :: l, by simp [Ne.symm hc, hl], rfl⟩

theorem IsOpen.cons {c : Char} {p : Text} (hc : c ≠ '\n') (hp : IsOpen p) : IsOpen (c :: p) :=
  ⟨by simp, by simp [Ne.symm hc, hp.2]⟩

theorem IsFull.ne_nil {p : Text} (hp : IsFull p) : p ≠ [] := by
  obtain ⟨l, -, rfl⟩ := hp
  simp

/-! ## Cuts -/

theorem IsCut.append {as bs : List Text} (has : ∀ p ∈ as, IsFull p) (hbs : IsCut bs) :
    IsCut (as ++ bs) := by
  induction as with
  | nil => exact hbs
  | cons p as ih => exact .inl ⟨has p (by simp), ih fun q hq => has q (by simp [hq])⟩

theorem IsCut.drop {ps : List Text} (h : IsCut ps) (i : Nat) : IsCut (ps.drop i) := by
  induction ps generalizing i with
  | nil => simpa using h
  | cons p ps ih =>
    cases i with
    | zero => exact h
    | succ i =>
      rcases h with ⟨-, h⟩ | ⟨-, rfl⟩
      · exact ih h i
      · simp [IsCut]

/-- The pieces in front of a piece are full lines. -/
theorem IsCut.isFull_of_mem_take {ps : List Text} (h : IsCut ps) {i : Nat} (hi : i < ps.length) :
    ∀ p ∈ ps.take i, IsFull p := by
  induction ps generalizing i with
  | nil => simp at hi
  | cons p ps ih =>
    cases i with
    | zero => simp
    | succ i =>
      rcases h with ⟨hp, h⟩ | ⟨-, rfl⟩
      · intro q hq
        rcases List.mem_cons.1 hq with rfl | hq
        · exact hp
        · exact ih h (by simpa using hi) q hq
      · simp at hi

/-- Each piece is a full line, or it is the last one and open. -/
theorem IsCut.isFull_or_isOpen {ps : List Text} (h : IsCut ps) {i : Nat} {p : Text}
    (hp : ps[i]? = some p) : IsFull p ∨ (IsOpen p ∧ i + 1 = ps.length) := by
  induction ps generalizing i with
  | nil => simp at hp
  | cons q ps ih =>
    rcases h with ⟨hq, h⟩ | ⟨hq, rfl⟩
    · cases i with
      | zero =>
        obtain rfl : q = p := by simpa using hp
        exact .inl hq
      | succ i => simpa using ih h (by simpa using hp)
    · cases i with
      | zero =>
        obtain rfl : q = p := by simpa using hp
        exact .inr ⟨hq, rfl⟩
      | succ i => simp at hp

theorem IsCut.modify {ps : List Text} {f : Text → Text} (h : IsCut ps)
    (hfull : ∀ p, IsFull p → IsFull (f p)) (hopen : ∀ p, IsOpen p → IsOpen (f p)) (i : Nat) :
    IsCut (ps.modify i f) := by
  induction ps generalizing i with
  | nil => simpa using h
  | cons p ps ih =>
    rcases h with ⟨hp, h⟩ | ⟨hp, rfl⟩
    · cases i with
      | zero => exact .inl ⟨hfull p hp, h⟩
      | succ i => exact .inl ⟨hp, ih h i⟩
    · cases i with
      | zero => exact .inr ⟨hopen p hp, rfl⟩
      | succ i => exact .inr ⟨hp, List.modify_nil f i⟩

theorem isCut_pieces (t : Text) : IsCut (pieces t) := by
  fun_induction pieces t with
  | case1 => trivial
  | case2 t ih => exact .inl ⟨⟨[], by simp, rfl⟩, ih⟩
  | case3 c t hc h ih => exact .inr ⟨⟨by simp, by simpa using Ne.symm hc⟩, rfl⟩
  | case4 c t hc p ps h ih =>
    rw [h] at ih
    rcases ih with ⟨hp, ih⟩ | ⟨hp, rfl⟩
    · exact .inl ⟨hp.cons hc, ih⟩
    · exact .inr ⟨hp.cons hc, rfl⟩

/-! ## Cutting what was put together -/

theorem pieces_append_newline {l : Text} (hl : '\n' ∉ l) (t : Text) :
    pieces (l ++ '\n' :: t) = (l ++ ['\n']) :: pieces t := by
  induction l with
  | nil => rw [List.nil_append, pieces, if_pos rfl]; rfl
  | cons c l ih =>
    rw [List.mem_cons, not_or] at hl
    rw [List.cons_append, pieces, if_neg (Ne.symm hl.1), ih hl.2]
    rfl

theorem pieces_of_isOpen {p : Text} (hp : IsOpen p) : pieces p = [p] := by
  obtain ⟨hne, hp⟩ := hp
  induction p with
  | nil => exact absurd rfl hne
  | cons c l ih =>
    rw [List.mem_cons, not_or] at hp
    rw [pieces, if_neg (Ne.symm hp.1)]
    by_cases hl : l = []
    · rw [hl]; rfl
    · rw [ih hl hp.2]

/-- Cutting the pieces of a cut put together gives them back. -/
theorem pieces_flatten {ps : List Text} (h : IsCut ps) : pieces ps.flatten = ps := by
  induction ps with
  | nil => rfl
  | cons p ps ih =>
    rcases h with ⟨⟨l, hl, rfl⟩, h⟩ | ⟨hp, rfl⟩
    · rw [List.flatten_cons, List.append_assoc, List.singleton_append,
        pieces_append_newline hl, ih h]
    · rw [List.flatten_singleton, pieces_of_isOpen hp]

/-- Behind full pieces a text is cut as it is alone. -/
theorem pieces_flatten_append {ps : List Text} (h : ∀ p ∈ ps, IsFull p) (t : Text) :
    pieces (ps.flatten ++ t) = ps ++ pieces t := by
  conv => lhs; rw [← flatten_pieces t, ← List.flatten_append]
  exact pieces_flatten (IsCut.append h (isCut_pieces t))

/-- A text is a last line, or a line and the text behind its line feed. -/
theorem line_induction {P : Text → Prop} (last : ∀ l, '\n' ∉ l → P l)
    (line : ∀ l t, '\n' ∉ l → P t → P (l ++ '\n' :: t)) (t : Text) : P t := by
  have hcut := isCut_pieces t
  rw [← flatten_pieces t]
  generalize pieces t = ps at hcut
  induction ps with
  | nil => exact last [] List.not_mem_nil
  | cons p ps ih =>
    rcases hcut with ⟨⟨l, hl, rfl⟩, hps⟩ | ⟨hp, rfl⟩
    · rw [List.flatten_cons, List.append_assoc]
      exact line l _ hl (ih hps)
    · rw [List.flatten_singleton]
      exact last p hp.2

end Text

/-! ## Line ends -/

/-- How a piece ends, told by its last characters. -/
def Text.lineEnd (p : Text) : LineEnd :=
  if ['\r', '\n'] <:+ p then .crlf else if ['\n'] <:+ p then .lf else .open

/-- The line end for new lines of a text: a carriage return and a line feed if the first piece ends
in these, else a line feed. -/
def Text.newlineEnd (t : Text) : LineEnd :=
  if (pieces t).head?.map lineEnd = some .crlf then .crlf else .lf

/-- What is split off a piece is what it ends in. -/
theorem splitLineEnd_snd (p : Text) : (splitLineEnd p).2 = Text.lineEnd p := by
  fun_induction splitLineEnd p with
  | case1 => rfl
  | case2 => rfl
  | case3 => rfl
  | case4 c t hn hr ih =>
    have hcrlf : ['\r', '\n'] <:+ c :: t ↔ ['\r', '\n'] <:+ t := by
      rw [List.suffix_cons_iff, or_iff_right]
      rintro ⟨⟩
      exact hr rfl rfl
    have hlf : ['\n'] <:+ c :: t ↔ ['\n'] <:+ t := by
      rw [List.suffix_cons_iff, or_iff_right]
      rintro ⟨⟩
      exact hn rfl rfl
    show (splitLineEnd t).2 = _
    simp only [ih, Text.lineEnd, hcrlf, hlf]

theorem splitLineEnd_cons {c : Char} {p : Text} (hn : c ≠ '\n' ∨ p ≠ [])
    (hr : c ≠ '\r' ∨ p ≠ ['\n']) :
    splitLineEnd (c :: p) = (c :: (splitLineEnd p).1, (splitLineEnd p).2) := by
  rw [splitLineEnd]
  · rintro rfl
    simpa using hn
  · rintro rfl
    simpa using hr

/-- A carriage return before a line feed belongs to the line end. -/
theorem getLast?_of_splitLineEnd_lf {p : Text} (h : (splitLineEnd p).2 = .lf) :
    (splitLineEnd p).1.getLast? ≠ some '\r' := by
  fun_induction splitLineEnd p with
  | case1 => simp
  | case2 => simp
  | case3 => simp at h
  | case4 c t hn hr ih =>
    have happ := splitLineEnd_append t
    rw [h] at happ
    cases ht : (splitLineEnd t).1 with
    | nil =>
      rw [ht] at happ
      rintro hc
      obtain rfl : c = '\r' := by simpa using hc
      exact hr rfl happ.symm
    | cons d l =>
      rw [← ht, List.getLast?_cons_of_ne_nil (by simp [ht])]
      exact ih h

/-- Contents and line end of a line put together are split again as they were. -/
theorem splitLineEnd_append_text {l : Text} {e : LineEnd} (hl : '\n' ∉ l)
    (he : e = .lf → l.getLast? ≠ some '\r') : splitLineEnd (l ++ e.text) = (l, e) := by
  induction l with
  | nil => cases e <;> rfl
  | cons c l ih =>
    rw [List.mem_cons, not_or] at hl
    have hl' : e = .lf → l.getLast? ≠ some '\r' := by
      intro h
      cases l with
      | nil => simp
      | cons d l => simpa using he h
    -- A carriage return that `l` ends in would be taken for a part of the line feed behind it.
    have hr : c ≠ '\r' ∨ l ++ e.text ≠ ['\n'] := by
      by_contra hcon
      obtain ⟨rfl, happ⟩ : c = '\r' ∧ l ++ e.text = ['\n'] := by simpa using hcon
      cases l with
      | nil =>
        cases e with
        | lf => simp at he
        | crlf => simp [LineEnd.text] at happ
        | «open» => simp [LineEnd.text] at happ
      | cons d l =>
        obtain ⟨rfl, -⟩ : d = '\n' ∧ _ := by simpa using happ
        simp at hl
    rw [List.cons_append, splitLineEnd_cons (.inl (Ne.symm hl.1)) hr, ih hl.2 hl']

theorem isFull_append_text {l : Text} {e : LineEnd} (hl : '\n' ∉ l) (he : e ≠ .open) :
    Text.IsFull (l ++ e.text) := by
  cases e with
  | lf => exact ⟨l, hl, rfl⟩
  | crlf => exact ⟨l ++ ['\r'], by simpa using hl, by simp [LineEnd.text]⟩
  | «open» => exact absurd rfl he

theorem splitLineEnd_of_isOpen {p : Text} (hp : Text.IsOpen p) : splitLineEnd p = (p, .open) := by
  simpa [LineEnd.text] using splitLineEnd_append_text (e := .open) hp.2 (by simp)

theorem lineEnd_of_isOpen {p : Text} (hp : Text.IsOpen p) : Text.lineEnd p = .open := by
  rw [← splitLineEnd_snd, splitLineEnd_of_isOpen hp]

theorem splitLineEnd_ne_open {p : Text} (hp : Text.IsFull p) : (splitLineEnd p).2 ≠ .open := by
  obtain ⟨l, hl, rfl⟩ := hp
  by_cases hr : l.getLast? = some '\r'
  · obtain ⟨k, rfl⟩ := List.getLast?_eq_some_iff.1 hr
    have hk : '\n' ∉ k := by simpa using hl
    have h := splitLineEnd_append_text (e := .crlf) hk (by simp)
    rw [show k ++ LineEnd.crlf.text = k ++ ['\r'] ++ ['\n'] by simp [LineEnd.text]] at h
    rw [h]
    simp
  · rw [show l ++ ['\n'] = l ++ LineEnd.lf.text from rfl,
      splitLineEnd_append_text hl fun _ => hr]
    simp

/-- What stands on a full line has no line feed. -/
theorem newline_notMem_splitLineEnd {p : Text} (hp : Text.IsFull p ∨ Text.IsOpen p) :
    '\n' ∉ (splitLineEnd p).1 := by
  rcases hp with ⟨l, hl, rfl⟩ | hp
  · intro h
    have happ := splitLineEnd_append (l ++ ['\n'])
    cases he : (splitLineEnd (l ++ ['\n'])).2 with
    | lf =>
      rw [he] at happ
      rw [List.append_cancel_right happ] at h
      exact hl h
    | crlf =>
      rw [he, show LineEnd.crlf.text = ['\r'] ++ ['\n'] from rfl, ← List.append_assoc] at happ
      have := List.append_cancel_right happ
      exact hl (this ▸ List.mem_append_left _ h)
    | «open» => exact splitLineEnd_ne_open ⟨l, hl, rfl⟩ he
  · rw [splitLineEnd_of_isOpen hp]
    exact hp.2

/-! ## Pieces and lines -/

/-- What stands on the pieces of a text are its lines. -/
theorem map_splitLineEnd_pieces (t : Text) :
    (Text.pieces t).map (fun p => (splitLineEnd p).1) = Text.lines t := by
  fun_induction Text.lines t with
  | case1 => rfl
  | case2 t ih => rw [Text.pieces, if_pos rfl, List.map_cons, ih]; rfl
  | case3 t ih =>
    rw [show '\r' :: '\n' :: t = ['\r'] ++ '\n' :: t from rfl,
      Text.pieces_append_newline (by decide), List.map_cons, ih]
    rfl
  | case4 c t hn hr h ih =>
    have ht : Text.pieces t = [] := List.map_eq_nil_iff.1 (ih.trans h)
    rw [Text.pieces, if_neg hn, ht, List.map_singleton, splitLineEnd_cons (.inl hn) (by simp)]
    rfl
  | case5 c t hn hr l ls h ih =>
    rw [h] at ih
    obtain ⟨p, ps, hp, rfl, rfl⟩ := List.map_eq_cons_iff.1 ih
    -- The rest would start in a line feed, which is the case of a carriage return before it.
    have hr' : c ≠ '\r' ∨ p ≠ ['\n'] := by
      by_contra hcon
      obtain ⟨hc, rfl⟩ : c = '\r' ∧ p = ['\n'] := by simpa using hcon
      refine hr ps.flatten hc ?_
      rw [← Text.flatten_pieces t, hp]
      rfl
    rw [Text.pieces, if_neg hn, hp, List.map_cons, splitLineEnd_cons (.inl hn) hr']

theorem length_lines (t : Text) : (Text.lines t).length = (Text.pieces t).length := by
  rw [← map_splitLineEnd_pieces, List.length_map]

theorem getElem?_lines (t : Text) (i : Nat) :
    (Text.lines t)[i]? = (Text.pieces t)[i]?.map fun p => (splitLineEnd p).1 := by
  rw [← map_splitLineEnd_pieces, List.getElem?_map]

theorem newline_notMem_of_mem_lines {t l : Text} (h : l ∈ Text.lines t) : '\n' ∉ l := by
  rw [← map_splitLineEnd_pieces, List.mem_map] at h
  obtain ⟨p, hp, rfl⟩ := h
  obtain ⟨i, hi⟩ := List.getElem?_of_mem hp
  exact newline_notMem_splitLineEnd
    (((Text.isCut_pieces t).isFull_or_isOpen hi).imp_right And.left)

/-! ## Buffers -/

namespace LineBuffer

/-- A buffer's lines are those of its text. -/
theorem contents_ofText (t : Text) : (ofText t).contents = Text.lines t :=
  map_splitLineEnd_pieces t

theorem content_ofText {t l : Text} {i : Nat} (h : (Text.lines t)[i]? = some l) :
    (ofText t).content i = l := by
  rw [content, contents_ofText, List.getD_eq_getElem?_getD, h]
  rfl

/-- New lines get the line end of the first line, or a line feed. -/
theorem newline_ofText (t : Text) : (ofText t).newline = Text.newlineEnd t := by
  show newlineOf (Text.pieces t) = Text.newlineEnd t
  unfold newlineOf Text.newlineEnd
  cases Text.pieces t with
  | nil => rfl
  | cons p ps => simp [splitLineEnd_snd]

theorem newlineOf_ne_open (ps : List Text) : newlineOf ps ≠ .open := by
  unfold newlineOf
  split
  · simp
  · split <;> simp

/-- A replaced line is a line of the new text: no other piece is cut anew. -/
theorem pieces_replace {t l : Text} (hl : '\n' ∉ l) (hne : l ≠ []) (i : Nat) :
    Text.pieces ((ofText t).replace i l).toText = ((ofText t).replace i l).pieces := by
  refine Text.pieces_flatten ((Text.isCut_pieces t).modify ?_ ?_ i)
  · intro p hp
    exact isFull_append_text hl (splitLineEnd_ne_open hp)
  · intro p hp
    rw [splitLineEnd_of_isOpen hp]
    exact ⟨by simp [hne], by simpa [LineEnd.text] using hl⟩

theorem isFull_of_mem_terminated {b : LineBuffer} {new : List Text} (hb : b.newline ≠ .open)
    (hnew : ∀ l ∈ new, '\n' ∉ l) : ∀ p ∈ b.terminated new, Text.IsFull p := by
  intro p hp
  obtain ⟨l, hl, rfl⟩ := List.mem_map.1 hp
  exact isFull_append_text (hnew l hl) hb

/-- A buffer is open when its last piece is an open line. -/
theorem isOpen_iff {t : Text} :
    (ofText t).isOpen = true ↔ ∃ ps p, Text.pieces t = ps ++ [p] ∧ Text.IsOpen p := by
  unfold isOpen
  split
  · rename_i p hp
    obtain ⟨ps, hps⟩ := List.getLast?_eq_some_iff.1 hp
    change Text.pieces t = ps ++ [p] at hps
    have hget : (Text.pieces t)[ps.length]? = some p := by simp [hps]
    rw [decide_eq_true_iff]
    constructor
    · intro he
      rcases (Text.isCut_pieces t).isFull_or_isOpen hget with hp | ⟨hp, -⟩
      · exact absurd he (splitLineEnd_ne_open hp)
      · exact ⟨ps, p, hps, hp⟩
    · rintro ⟨ps', p', hps', hp'⟩
      obtain ⟨-, he⟩ := List.append_inj' (hps.symm.trans hps') rfl
      obtain rfl : p = p' := by simpa using he
      rw [splitLineEnd_of_isOpen hp']
  · rename_i hp
    rw [List.getLast?_eq_none_iff] at hp
    change Text.pieces t = [] at hp
    simp [hp]

/-- The pieces in front of a place for new lines are full, unless it is the end of an open text. -/
theorem isFull_of_mem_take {t : Text} {i : Nat} (hi : i ≤ (Text.pieces t).length)
    (hopen : ¬ (i = (Text.pieces t).length ∧ (ofText t).isOpen = true)) :
    ∀ p ∈ (Text.pieces t).take i, Text.IsFull p := by
  intro p hp
  rcases Nat.lt_or_eq_of_le hi with hlt | rfl
  · exact (Text.isCut_pieces t).isFull_of_mem_take hlt p hp
  · rw [List.take_length] at hp
    obtain ⟨j, hj⟩ := List.getElem?_of_mem hp
    rcases (Text.isCut_pieces t).isFull_or_isOpen hj with hp | ⟨hp, hlast⟩
    · exact hp
    · refine absurd ⟨rfl, isOpen_iff.2 ?_⟩ hopen
      refine ⟨(Text.pieces t).dropLast, p, ?_, hp⟩
      rw [List.dropLast_append_getLast? p]
      rw [List.getLast?_eq_getElem?, ← hlast, Nat.add_sub_cancel, hj]
      rfl

theorem isOpen_of_pieces {b : LineBuffer} {ps : List Text} {p : Text} (h : b.pieces = ps ++ [p]) :
    b.isOpen = decide ((splitLineEnd p).2 = .open) := by
  rw [isOpen, h, List.getLast?_concat]

/-- The pieces of a buffer with lines inserted in front of one of its lines. -/
theorem insert_pieces_between {b : LineBuffer} {new : List Text} {i : Nat}
    (hopen : ¬ (i = b.length ∧ b.isOpen = true)) (hne : new ≠ []) :
    (b.insert i new).pieces = b.pieces.take i ++ b.terminated new ++ b.pieces.drop i := by
  have hcond : ¬ ((i = b.length && b.isOpen) = true) := by
    rwa [Bool.and_eq_true, decide_eq_true_iff]
  rw [insert, if_neg (by simpa using hne), if_neg hcond]

/-- The pieces of a buffer with lines inserted behind an open line. -/
theorem insert_pieces_behind {b : LineBuffer} {ps : List Text} {p : Text} {i : Nat}
    (hps : b.pieces = ps ++ [p]) (hp : (splitLineEnd p).2 = .open) (hi : i = b.length)
    (new : List Text) (l : Text) :
    (b.insert i (new ++ [l])).pieces = ps ++ [p ++ b.newline.text] ++ b.terminated new ++ [l] := by
  have hcond : (i = b.length && b.isOpen) = true := by
    rw [Bool.and_eq_true, decide_eq_true_iff, isOpen_of_pieces hps, decide_eq_true_iff]
    exact ⟨hi, hp⟩
  have hlast : b.length - 1 = ps.length := by simp [length, hps]
  have hmodify : b.pieces.modify ps.length (· ++ b.newline.text) =
      ps ++ [p ++ b.newline.text] := by
    rw [hps, List.modify_eq_take_cons_drop (by simp)]
    simp
  rw [insert, if_neg (by simp), if_pos hcond, hlast]
  simp [hmodify]

theorem insert_pieces {t : Text} {new : List Text} {i : Nat}
    (hopen : ¬ (i = (Text.pieces t).length ∧ (ofText t).isOpen = true)) (hne : new ≠ []) :
    ((ofText t).insert i new).pieces =
      (Text.pieces t).take i ++ (ofText t).terminated new ++ (Text.pieces t).drop i :=
  insert_pieces_between hopen hne

theorem insert_pieces_of_isOpen {t p : Text} {ps : List Text} (hps : Text.pieces t = ps ++ [p])
    (hp : Text.IsOpen p) (new : List Text) (l : Text) :
    ((ofText t).insert (Text.pieces t).length (new ++ [l])).pieces =
      ps ++ [p ++ (ofText t).newline.text] ++ (ofText t).terminated new ++ [l] :=
  insert_pieces_behind (b := ofText t) hps (congrArg Prod.snd (splitLineEnd_of_isOpen hp)) rfl new l

/-- New lines between full lines are lines of the new text. -/
theorem pieces_insert {t : Text} {new : List Text} {i : Nat} (hi : i ≤ (Text.pieces t).length)
    (hopen : ¬ (i = (Text.pieces t).length ∧ (ofText t).isOpen = true))
    (hne : new ≠ []) (hnew : ∀ l ∈ new, '\n' ∉ l) :
    Text.pieces ((ofText t).insert i new).toText =
      (Text.pieces t).take i ++ (ofText t).terminated new ++ (Text.pieces t).drop i := by
  rw [toText, insert_pieces hopen hne]
  refine Text.pieces_flatten (Text.IsCut.append ?_ ((Text.isCut_pieces t).drop i))
  intro p hp
  rcases List.mem_append.1 hp with hp | hp
  · exact isFull_of_mem_take hi hopen p hp
  · exact isFull_of_mem_terminated (newlineOf_ne_open _) hnew p hp

/-- New lines after an open line close it; the last of them is open instead. -/
theorem pieces_insert_of_isOpen {t p l : Text} {ps new : List Text}
    (hps : Text.pieces t = ps ++ [p]) (hp : Text.IsOpen p) (hl : Text.IsOpen l)
    (hnew : ∀ l ∈ new, '\n' ∉ l) :
    Text.pieces ((ofText t).insert (Text.pieces t).length (new ++ [l])).toText =
      ps ++ [p ++ (ofText t).newline.text] ++ (ofText t).terminated new ++ [l] := by
  rw [toText, insert_pieces_of_isOpen hps hp]
  refine Text.pieces_flatten (Text.IsCut.append ?_ (.inr ⟨hl, rfl⟩))
  intro q hq
  rcases List.mem_append.1 hq with hq | hq
  · rcases List.mem_append.1 hq with hq | hq
    · exact (Text.isCut_pieces t).isFull_of_mem_take (i := ps.length) (by simp [hps]) q
        (by simpa [hps] using hq)
    · obtain rfl := List.mem_singleton.1 hq
      exact isFull_append_text hp.2 (newlineOf_ne_open _)
  · exact isFull_of_mem_terminated (newlineOf_ne_open _) hnew q hq

end LineBuffer

end GemDeps
