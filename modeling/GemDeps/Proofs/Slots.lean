import GemDeps.Proofs.AddedLines
import GemDeps.Proofs.DeclaredNames
import GemDeps.Proofs.EditedLine

/-!
# Slots for a line

A slot is a text in which one line is left open behind its blanks. What is put into it stands on the
same line (`Slot.getElem?_lines_fill`), and to replace it is to fill the slot with something else
(`Slot.text_ofLine_fill`). Where a line is inserted, the text with all but this line is a slot
(`exists_slot_ofInsertion`), also when blanks in front of the line hold line feeds: they then make
lines of their own in front of the slot.
-/

namespace GemDeps

/-! ## Filling a slot -/

/-- A text with a place for what stands on one of its lines. -/
structure Slot where
  /-- The lines in front. -/
  before : List Text
  /-- The blanks in front of the place on its line. -/
  margin : Text
  lineEnd : LineEnd
  /-- The text behind the line. -/
  rest : Text
  full : ∀ p ∈ before, Text.IsFull p
  isMargin : IsMargin margin
  closed : lineEnd = .open → rest = []

namespace Slot

/-- The text with something put into the slot. -/
def fill (a : Slot) (l : Text) : Text :=
  a.before.flatten ++ (a.margin ++ l ++ a.lineEnd.text ++ a.rest)

/-- No line in front of the slot declares the name. -/
def IsNew (a : Slot) (kind : Kind) (name : Text) : Prop :=
  name ∉ a.before.filterMap (nameOn? kind)

variable (a : Slot) {l : Text} (hl : '\n' ∉ l)

include hl

theorem pieces_fill (hne : l ≠ []) : Text.pieces (a.fill l) =
    a.before ++ (a.margin ++ l ++ a.lineEnd.text) :: Text.pieces a.rest := by
  have hline : '\n' ∉ a.margin ++ l := by simp [a.isMargin.newline, hl]
  rw [fill, Text.pieces_flatten_append a.full]
  congr 1
  by_cases he : a.lineEnd = .open
  · rw [he, a.closed he]
    simpa [LineEnd.text, Text.pieces] using Text.pieces_of_isOpen ⟨by simp [hne], hline⟩
  · have hfull := List.forall_mem_singleton.2 (isFull_append_text hline he)
    simpa using Text.pieces_flatten_append hfull a.rest

variable (hends : EndsPlain l)

include hends

theorem splitLineEnd_fill :
    splitLineEnd (a.margin ++ l ++ a.lineEnd.text) = (a.margin ++ l, a.lineEnd) :=
  splitLineEnd_append_text (by simp [a.isMargin.newline, hl]) fun _ => (hends.append _).2

theorem getElem?_lines_fill :
    (Text.lines (a.fill l))[a.before.length]? = some (a.margin ++ l) := by
  rw [getElem?_lines, a.pieces_fill hl hends.1, List.getElem?_append_right (Nat.le_refl _),
    Nat.sub_self, List.getElem?_cons_zero, Option.map_some, a.splitLineEnd_fill hl hends]

/-- Another line in place of the one that was put into the slot. -/
theorem text_ofLine_fill (l' : Text) :
    (Revision.ofLine (a.fill l) a.before.length (a.margin ++ l')).text = a.fill l' := by
  show ((Text.pieces (a.fill l)).modify a.before.length _).flatten = _
  have hend := congrArg Prod.snd (a.splitLineEnd_fill hl hends)
  rw [List.append_assoc] at hend
  rw [a.pieces_fill hl hends.1, List.modify_eq_take_cons_drop (by simp)]
  simp [hend, fill, Text.flatten_pieces]

/-- A statement put into the slot is the first that declares its name. -/
theorem declaredOn_fill {kind : Kind} {name : Text} {s : Statement} (hnew : a.IsNew kind name)
    (hread : Statement.read? kind (a.margin ++ l) = some s) (hname : s.name = name)
    (hsingle : continues (a.margin ++ l) = false) :
    DeclaredOn kind (a.fill l) name a.before.length (a.margin ++ l) s := by
  have hline := a.getElem?_lines_fill hl hends
  refine ⟨declarationLine?_eq_some_iff.2 ⟨⟨_, hline, declares_iff.2 ⟨s, hread, hname⟩⟩, ?_⟩, hline,
    Statement.isOn_of_read? hread, hsingle⟩
  intro j hj u hu
  obtain ⟨p, hp, rfl⟩ := getElem?_pieces_of_lines hu
  rw [a.pieces_fill hl hends.1, List.getElem?_append_left hj] at hp
  by_contra hdeclares
  obtain ⟨w, hw, hwname⟩ := declares_iff.1 (Bool.not_eq_false _ ▸ hdeclares)
  refine hnew (List.mem_filterMap.2 ⟨p, List.mem_of_getElem? hp, ?_⟩)
  rw [← splitLineEnd_append p, (ignoresBlanks_nameOn? kind).behind _ _ (LineEnd.isBlanks_text _),
    nameOn?_of_read? hw, hwname]

end Slot

/-! ## Inserted lines -/

theorem IgnoresBlanks.eq_none {α : Type} {g : Text → Option α} (hg : IgnoresBlanks g) {b : Text}
    (hb : Text.IsBlanks b) : g b = none := by
  have hbefore := hg.before b [] hb
  rwa [List.append_nil, hg.empty] at hbefore

/-- Blanks are some blank lines and a margin. -/
theorem exists_blankLines {b : Text} (hb : Text.IsBlanks b) :
    ∃ (bs : List Text) (m : Text), b = bs.flatten ++ m ∧
      (∀ p ∈ bs, Text.IsFull p ∧ Text.IsBlanks p) ∧ IsMargin m := by
  induction b using Text.line_induction with
  | last l hl => exact ⟨[], l, rfl, List.forall_mem_nil _, hb, hl⟩
  | line l t hl ih =>
    obtain ⟨hbl, hbt⟩ := List.forall_mem_append.1 hb
    obtain ⟨hbn, hbt⟩ := List.forall_mem_cons.1 hbt
    obtain ⟨bs, m, rfl, hbs, hm⟩ := ih hbt
    refine ⟨(l ++ ['\n']) :: bs, m, by simp, ?_, hm⟩
    refine List.forall_mem_cons.2 ⟨⟨⟨l, hl, rfl⟩, ?_⟩, hbs⟩
    exact List.forall_mem_append.2 ⟨hbl, List.forall_mem_singleton.2 hbn⟩

/-- Around one of the inserted lines the new text does not depend on that line. In front of it stand
full lines, on which the same is read as on the old and the new lines there. -/
theorem exists_front_ofInsertion {α : Type} {g : Text → Option α} (hg : IgnoresBlanks g) {t : Text}
    {i : Nat} (hi : i ≤ (Text.pieces t).length) {pre : List Text} (hpre : ∀ k ∈ pre, '\n' ∉ k)
    (post : List Text) :
    ∃ (front : List Text) (e : LineEnd) (rest : Text), (∀ p ∈ front, Text.IsFull p) ∧
      front.filterMap g = ((Text.pieces t).take i).filterMap g ++ pre.filterMap g ∧
      (e = .open → rest = []) ∧
      ∀ l, (Revision.ofInsertion t i (pre ++ l :: post)).text =
        front.flatten ++ (l ++ e.text ++ rest) := by
  have hnewline : (LineBuffer.ofText t).newline ≠ .open := LineBuffer.newlineOf_ne_open _
  have hterminated := LineBuffer.isFull_of_mem_terminated hnewline hpre
  have hread : ((LineBuffer.ofText t).terminated pre).filterMap g = pre.filterMap g := by
    rw [LineBuffer.terminated, List.filterMap_map]
    exact List.filterMap_congr fun k _ => hg.behind _ k (LineEnd.isBlanks_text _)
  by_cases hopen : i = (Text.pieces t).length ∧ (LineBuffer.ofText t).isOpen = true
  · obtain ⟨rfl, hopen⟩ := hopen
    obtain ⟨ps, p, hps, hp⟩ := LineBuffer.isOpen_iff.1 hopen
    have hfull : ∀ p' ∈ ps ++ [p ++ (LineBuffer.ofText t).newline.text] ++
        (LineBuffer.ofText t).terminated pre, Text.IsFull p' := by
      refine List.forall_mem_append.2 ⟨List.forall_mem_append.2 ⟨?_, ?_⟩, hterminated⟩
      · have htake := (Text.isCut_pieces t).isFull_of_mem_take (i := ps.length) (by simp [hps])
        simpa [hps] using htake
      · exact List.forall_mem_singleton.2 (isFull_append_text hp.2 hnewline)
    have hsame : (ps ++ [p ++ (LineBuffer.ofText t).newline.text] ++
        (LineBuffer.ofText t).terminated pre).filterMap g =
          ((Text.pieces t).take (Text.pieces t).length).filterMap g ++ pre.filterMap g := by
      have hend := hg.behind _ p (LineEnd.isBlanks_text (LineBuffer.ofText t).newline)
      rw [List.take_length, List.filterMap_append, hread, hps, List.filterMap_append,
        List.filterMap_append, List.filterMap_cons, List.filterMap_cons, hend]
    have ht : ps.flatten ++ p = t := by
      rw [← Text.flatten_pieces t, hps, List.flatten_append, List.flatten_singleton]
    rcases List.eq_nil_or_concat post with rfl | ⟨init, last, rfl⟩
    · refine ⟨_, .open, [], hfull, hsame, fun _ => rfl, fun l => ?_⟩
      rw [text_ofInsertion_of_isOpen hopen, ← ht]
      simp [LineEnd.text]
    · refine ⟨_, (LineBuffer.ofText t).newline,
        ((LineBuffer.ofText t).terminated init).flatten ++ last, hfull, hsame,
        fun h => absurd h hnewline, fun l => ?_⟩
      rw [List.concat_eq_append, ← List.cons_append, ← List.append_assoc,
        text_ofInsertion_of_isOpen hopen, ← ht]
      simp [LineBuffer.terminated]
  · have hfull : ∀ p ∈ (Text.pieces t).take i ++ (LineBuffer.ofText t).terminated pre,
        Text.IsFull p :=
      List.forall_mem_append.2 ⟨LineBuffer.isFull_of_mem_take hi hopen, hterminated⟩
    refine ⟨_, (LineBuffer.ofText t).newline,
      ((LineBuffer.ofText t).terminated post).flatten ++ ((Text.pieces t).drop i).flatten, hfull,
      by rw [List.filterMap_append, hread], fun h => absurd h hnewline, fun l => ?_⟩
    rw [text_ofInsertion hopen (by simp)]
    simp [LineBuffer.terminated]

/-- A line that is inserted behind some blanks stands in a slot. No line in front of the slot
declares a name that neither the text nor the lines inserted there declare. -/
theorem exists_slot_ofInsertion {kind : Kind} {t name b : Text} {i : Nat}
    (hi : i ≤ (Text.pieces t).length) (hnew : ¬ (declarationLine? kind t name).isSome = true)
    {pre : List Text} (hpre : ∀ k ∈ pre, '\n' ∉ k ∧ nameOn? kind k = none) (hb : Text.IsBlanks b)
    (post : List Text) : ∃ a : Slot, a.IsNew kind name ∧
      ∀ l, (Revision.ofInsertion t i (pre ++ (b ++ l) :: post)).text = a.fill l := by
  have hg := ignoresBlanks_nameOn? kind
  obtain ⟨front, e, rest, hfull, hsame, hclosed, htext⟩ :=
    exists_front_ofInsertion hg hi (fun k hk => (hpre k hk).1) post
  obtain ⟨bs, m, rfl, hbs, hm⟩ := exists_blankLines hb
  refine ⟨⟨front ++ bs, m, e, rest,
    List.forall_mem_append.2 ⟨hfull, fun p hp => (hbs p hp).1⟩, hm, hclosed⟩, ?_, fun l => ?_⟩
  · have hnone : pre.filterMap (nameOn? kind) = [] ∧ bs.filterMap (nameOn? kind) = [] :=
      ⟨List.filterMap_eq_nil_iff.2 fun k hk => (hpre k hk).2,
        List.filterMap_eq_nil_iff.2 fun p hp => hg.eq_none (hbs p hp).2⟩
    show name ∉ (front ++ bs).filterMap (nameOn? kind)
    rw [List.filterMap_append, hsame, hnone.1, hnone.2, List.append_nil, List.append_nil]
    intro hmem
    refine hnew (Document.mem_names_iff.1 ?_)
    rw [Document.names_read]
    exact ((List.take_sublist i (Text.pieces t)).filterMap _).mem hmem
  · rw [htext]
    simp [Slot.fill]

end GemDeps
