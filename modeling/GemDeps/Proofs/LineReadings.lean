import GemDeps.Proofs.InsertedLines

/-!
# Reading a text line by line

A reading of lines that sees no blanks around them gives the same on a line with its line end, on
the line alone, and on the pieces between the line feeds. So what it gives on a text adds up over
line feeds (`Text.scan_append_newline`), whatever blanks and line ends stand there, and an edit
changes it by what the lines written give: a line put in place of another (`scan_ofLine`) or lines
inserted between others (`scan_ofInsertion`), even when blanks in front of them hold line feeds.
-/

namespace GemDeps

/-- A reading of lines that does not see the blanks around them, and reads nothing on an empty
line. -/
structure IgnoresBlanks {α : Type} (g : Text → Option α) : Prop where
  before : ∀ b l, Text.IsBlanks b → g (b ++ l) = g l
  behind : ∀ b l, Text.IsBlanks b → g (l ++ b) = g l
  empty : g [] = none

theorem LineEnd.isBlanks_text (e : LineEnd) : Text.IsBlanks e.text := by
  cases e with
  | lf => exact List.forall_mem_singleton.2 (by decide)
  | crlf => exact List.forall_mem_cons.2 ⟨by decide, List.forall_mem_singleton.2 (by decide)⟩
  | «open» => exact List.forall_mem_nil _

namespace Text

/-- What is read on the lines of a text, in their order. -/
def scan {α : Type} (g : Text → Option α) (t : Text) : List α := (pieces t).filterMap g

section Scan

variable {α : Type} {g : Text → Option α}

theorem scan_flatten {ps : List Text} (h : IsCut ps) : scan g ps.flatten = ps.filterMap g := by
  rw [scan, pieces_flatten h]

/-- Behind full lines a text is read as it is alone. -/
theorem scan_flatten_append {ps : List Text} (h : ∀ p ∈ ps, IsFull p) (t : Text) :
    scan g (ps.flatten ++ t) = ps.filterMap g ++ scan g t := by
  rw [scan, pieces_flatten_append h, List.filterMap_append, scan]

variable (hg : IgnoresBlanks g)

include hg

theorem scan_line {l : Text} (hl : '\n' ∉ l) : scan g l = (g l).toList := by
  unfold scan
  by_cases hne : l = []
  · rw [hne, hg.empty]
    rfl
  · rw [pieces_of_isOpen ⟨hne, hl⟩]
    cases h : g l with
    | none => rw [List.filterMap_cons_none h]; rfl
    | some a => rw [List.filterMap_cons_some h]; rfl

theorem scan_line_append {l : Text} (hl : '\n' ∉ l) (t : Text) :
    scan g (l ++ '\n' :: t) = (g l).toList ++ scan g t := by
  unfold scan
  have hend : g (l ++ ['\n']) = g l := hg.behind _ _ (LineEnd.isBlanks_text .lf)
  rw [pieces_append_newline hl]
  cases h : g l with
  | none => rw [List.filterMap_cons_none (hend.trans h)]; rfl
  | some a => rw [List.filterMap_cons_some (hend.trans h)]; rfl

/-- What is read in front of a line feed and behind it adds up. -/
theorem scan_append_newline (s t : Text) : scan g (s ++ '\n' :: t) = scan g s ++ scan g t := by
  induction s using line_induction with
  | last l hl => rw [scan_line_append hg hl, scan_line hg hl]
  | line l s hl ih =>
    rw [List.append_assoc, List.cons_append, scan_line_append hg hl, scan_line_append hg hl, ih,
      List.append_assoc]

/-- Blanks in front of a text, line feeds too, are not seen. -/
theorem scan_blanks_append {b : Text} (hb : IsBlanks b) (t : Text) :
    scan g (b ++ t) = scan g t := by
  induction b with
  | nil => rfl
  | cons c b ih =>
    obtain ⟨hc, hb⟩ := List.forall_mem_cons.1 hb
    have hblank : ∀ l, g (c :: l) = g l := fun l =>
      hg.before [c] l (List.forall_mem_singleton.2 hc)
    rw [List.cons_append, ← ih hb]
    generalize b ++ t = u
    by_cases hn : c = '\n'
    · rw [hn]
      exact (scan_line_append hg List.not_mem_nil u).trans (by rw [hg.empty]; rfl)
    · induction u using line_induction with
      | last l hl =>
        have hcl : '\n' ∉ c :: l := by simp [Ne.symm hn, hl]
        rw [scan_line hg hcl, scan_line hg hl, hblank]
      | line l u hl _ =>
        have hcl : '\n' ∉ c :: l := by simp [Ne.symm hn, hl]
        rw [← List.cons_append, scan_line_append hg hcl, scan_line_append hg hl, hblank]

/-- Blanks at the end of the last line are not seen. -/
theorem scan_append_blanks {b : Text} (hb : IsBlanks b) (hn : '\n' ∉ b) (t : Text) :
    scan g (t ++ b) = scan g t := by
  induction t using line_induction with
  | last l hl => rw [scan_line hg (by simp [hl, hn]), scan_line hg hl, hg.behind b l hb]
  | line l t hl ih =>
    rw [List.append_assoc, List.cons_append, scan_line_append hg hl, scan_line_append hg hl, ih]

theorem scan_append_lineEnd {e : LineEnd} (he : e ≠ .open) (s t : Text) :
    scan g (s ++ e.text ++ t) = scan g s ++ scan g t := by
  cases e with
  | lf =>
    rw [List.append_assoc]
    exact scan_append_newline hg s t
  | crlf =>
    have htext : s ++ LineEnd.crlf.text ++ t = s ++ ['\r'] ++ '\n' :: t := by simp [LineEnd.text]
    rw [htext, scan_append_newline hg, scan_append_blanks hg isBlanks_carriageReturn (by decide)]
  | «open» => exact absurd rfl he

/-! ## Lines and pieces -/

/-- What is read on the lines, without their line ends. -/
theorem filterMap_lines (t : Text) : (lines t).filterMap g = scan g t := by
  rw [← map_splitLineEnd_pieces, List.filterMap_map]
  refine List.filterMap_congr fun p _ => ?_
  conv => rhs; rw [← splitLineEnd_append p]
  exact (hg.behind _ _ (LineEnd.isBlanks_text _)).symm

/-- What is read on the pieces between the line feeds. -/
theorem filterMap_splitOn (t : Text) : (t.splitOn '\n').filterMap g = scan g t := by
  have hsingle : ∀ l, [l].filterMap g = (g l).toList := by
    intro l
    cases h : g l with
    | none => rw [List.filterMap_cons_none h]; rfl
    | some a => rw [List.filterMap_cons_some h]; rfl
  induction t using line_induction with
  | last l hl => rw [List.splitOn_eq_singleton hl, hsingle, scan_line hg hl]
  | line l t hl ih =>
    rw [List.splitOn_append_cons_self_of_not_mem hl, ← List.singleton_append,
      List.filterMap_append, hsingle, ih, scan_line_append hg hl]

end Scan

end Text

/-! ## Texts with inserted lines -/

theorem text_ofInsertion {t : Text} {i : Nat} {new : List Text}
    (hopen : ¬ (i = (Text.pieces t).length ∧ (LineBuffer.ofText t).isOpen = true))
    (hne : new ≠ []) :
    (Revision.ofInsertion t i new).text =
      ((Text.pieces t).take i).flatten ++ (((LineBuffer.ofText t).terminated new).flatten ++
        ((Text.pieces t).drop i).flatten) := by
  show ((LineBuffer.ofText t).insert i new).pieces.flatten = _
  rw [LineBuffer.insert_pieces hopen hne, List.append_assoc, List.flatten_append,
    List.flatten_append]

/-- An open line gets a line end, and the last new line has none. -/
theorem text_ofInsertion_of_isOpen {t : Text} (hopen : (LineBuffer.ofText t).isOpen = true)
    (init : List Text) (l : Text) :
    (Revision.ofInsertion t (Text.pieces t).length (init ++ [l])).text =
      t ++ (LineBuffer.ofText t).newline.text ++
        (((LineBuffer.ofText t).terminated init).flatten ++ l) := by
  obtain ⟨ps, p, hps, hp⟩ := LineBuffer.isOpen_iff.1 hopen
  have ht : ps.flatten ++ p = t := by
    rw [← Text.flatten_pieces t, hps, List.flatten_append, List.flatten_singleton]
  show ((LineBuffer.ofText t).insert (Text.pieces t).length (init ++ [l])).pieces.flatten = _
  rw [LineBuffer.insert_pieces_of_isOpen hps hp, List.flatten_append, List.flatten_append,
    List.flatten_append, List.flatten_singleton, List.flatten_singleton, ← List.append_assoc,
    ht, List.append_assoc]

/-! ## After an edit -/

section Edits

variable {α : Type} {g : Text → Option α} (hg : IgnoresBlanks g)

include hg

/-- A line in place of one on which the same is read changes nothing. -/
theorem scan_ofLine {t line l : Text} {i : Nat} (hl : FitsLine t i l)
    (hline : (Text.lines t)[i]? = some line) (hread : g l = g line) :
    Text.scan g (Revision.ofLine t i l).text = Text.scan g t := by
  rw [← Text.filterMap_lines hg, ← Text.filterMap_lines hg]
  show (Text.lines ((LineBuffer.ofText t).replace i l).toText).filterMap g = _
  rw [LineBuffer.lines_replace hl]
  obtain ⟨hi, rfl⟩ := List.getElem?_eq_some_iff.1 hline
  conv => rhs; rw [← List.set_getElem_self hi]
  rw [List.set_eq_take_append_cons_drop, if_pos hi, List.set_eq_take_append_cons_drop, if_pos hi,
    List.filterMap_append, List.filterMap_append, List.filterMap_cons, List.filterMap_cons, hread]

theorem scan_terminated {b : LineBuffer} (hb : b.newline ≠ .open) (new : List Text) (t : Text) :
    Text.scan g ((b.terminated new).flatten ++ t) =
      new.flatMap (Text.scan g) ++ Text.scan g t := by
  induction new with
  | nil => rfl
  | cons l new ih =>
    show Text.scan g (l ++ b.newline.text ++ (b.terminated new).flatten ++ t) = _
    rw [List.append_assoc, Text.scan_append_lineEnd hg hb, ih, List.flatMap_cons,
      List.append_assoc]

/-- What is read on inserted lines stands between what is read in front of them and behind them. The
lines may hold line feeds themselves. -/
theorem scan_ofInsertion {t : Text} {i : Nat} (hi : i ≤ (Text.pieces t).length)
    (new : List Text) :
    Text.scan g (Revision.ofInsertion t i new).text =
      ((Text.pieces t).take i).filterMap g ++ new.flatMap (Text.scan g) ++
        ((Text.pieces t).drop i).filterMap g := by
  have hnewline : (LineBuffer.ofText t).newline ≠ .open := LineBuffer.newlineOf_ne_open _
  by_cases hempty : new = []
  · have htext : (Revision.ofInsertion t i new).text = t := by
      rw [hempty]
      exact LineBuffer.toText_ofText t
    rw [htext, hempty, List.flatMap_nil, List.append_nil, ← List.filterMap_append,
      List.take_append_drop, Text.scan]
  by_cases hopen : i = (Text.pieces t).length ∧ (LineBuffer.ofText t).isOpen = true
  · obtain ⟨rfl, hopen⟩ := hopen
    obtain ⟨init, l, rfl⟩ : ∃ init l, new = init ++ [l] :=
      ⟨_, _, (List.dropLast_concat_getLast hempty).symm⟩
    rw [text_ofInsertion_of_isOpen hopen, Text.scan_append_lineEnd hg hnewline,
      scan_terminated hg hnewline, List.take_length, List.drop_length, List.flatMap_append,
      List.flatMap_singleton, List.filterMap_nil, List.append_nil, Text.scan]
  · rw [text_ofInsertion hopen hempty,
      Text.scan_flatten_append (LineBuffer.isFull_of_mem_take hi hopen),
      scan_terminated hg hnewline, Text.scan_flatten ((Text.isCut_pieces t).drop i),
      List.append_assoc]

end Edits

end GemDeps
