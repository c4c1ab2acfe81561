import GemDeps.Proofs.Lines
import GemDeps.Proofs.VersionArguments
import GemDeps.Proofs.WrittenLines

/-!
# The line that an edit writes

Pinning and unpinning replace the line of one declaration (`pin_eq_ok_iff`, `unpin_eq_ok_iff`). A
text that fits on the line is that line of the new text and moves no other
(`LineBuffer.lines_replace`), so the declaration is found again where it was, with the statement
that was written (`DeclaredOn.replace`), and of two edits of one line the second is the only one
that shows (`ofLine_ofLine`).
-/

namespace GemDeps

/-! ## Texts that fit on a line -/

/-- A text that may stand on line `i`: on one line, not empty, and not ending in a carriage return
that would be taken for a part of the line end. -/
structure FitsLine (t : Text) (i : Nat) (l : Text) : Prop where
  newline : '\n' ∉ l
  ne_nil : l ≠ []
  lineEnd : ∀ p, (Text.pieces t)[i]? = some p → (splitLineEnd p).2 = .lf → l.getLast? ≠ some '\r'

theorem FitsLine.splitLineEnd_eq {t l p : Text} {i : Nat} (hl : FitsLine t i l)
    (hp : (Text.pieces t)[i]? = some p) :
    splitLineEnd (l ++ (splitLineEnd p).2.text) = (l, (splitLineEnd p).2) :=
  splitLineEnd_append_text hl.newline (hl.lineEnd p hp)

theorem getElem?_pieces_of_lines {t l : Text} {i : Nat} (h : (Text.lines t)[i]? = some l) :
    ∃ p, (Text.pieces t)[i]? = some p ∧ (splitLineEnd p).1 = l := by
  rw [getElem?_lines] at h
  exact Option.map_eq_some_iff.1 h

/-- A text fits on a line when it starts in a finished text and ends the way the line does. -/
theorem fitsLine_append {t s r k : Text} {i : Nat} (hs : IsFinished s) (hnew : '\n' ∉ s)
    (hline : (Text.lines t)[i]? = some (k ++ r)) : FitsLine t i (s ++ r) := by
  obtain ⟨u, c, rfl, hc, -⟩ := hs.last
  have hr : '\n' ∉ k ++ r := newline_notMem_of_mem_lines (List.mem_of_getElem? hline)
  refine ⟨?_, by simp, ?_⟩
  · rw [List.mem_append, not_or] at hr ⊢
    exact ⟨hnew, hr.2⟩
  · intro p hp he
    obtain ⟨p', hp', hcontent⟩ := getElem?_pieces_of_lines hline
    obtain rfl : p' = p := by simpa [hp'] using hp
    have hlast := getLast?_of_splitLineEnd_lf he
    rw [hcontent] at hlast
    -- Behind nothing the line ends in the last character of `s`, which is no blank.
    by_cases hempty : r = []
    · rw [hempty, List.append_nil, List.getLast?_concat]
      rintro heq
      obtain rfl : c = '\r' := by simpa using heq
      exact absurd hc (by decide)
    · rw [List.getLast?_append_of_ne_nil _ hempty] at hlast ⊢
      exact hlast

namespace LineBuffer

/-- The line of the new text is the one put there, and the other lines are as they were. -/
theorem lines_replace {t l : Text} {i : Nat} (hl : FitsLine t i l) :
    Text.lines ((ofText t).replace i l).toText = (Text.lines t).set i l := by
  rw [← map_splitLineEnd_pieces, pieces_replace hl.newline hl.ne_nil]
  ext j : 1
  rw [List.getElem?_map, List.getElem?_set, length_lines, getElem?_lines]
  show Option.map _ ((Text.pieces t).modify i _)[j]? = _
  rw [List.getElem?_modify]
  by_cases hj : i = j
  · subst hj
    rw [if_pos rfl]
    cases hp : (Text.pieces t)[i]? with
    | none =>
      rw [if_neg (by simpa using hp)]
      rfl
    | some p =>
      rw [if_pos (List.getElem?_eq_some_iff.1 hp).1]
      simp [hl.splitLineEnd_eq hp]
  · rw [if_neg hj]
    simp [hj]

/-- What is put on a line is all that an earlier edit of the line leaves. -/
theorem replace_replace {t l l' : Text} {i : Nat} (hl : FitsLine t i l) :
    ((ofText ((ofText t).replace i l).toText).replace i l').toText =
      ((ofText t).replace i l').toText := by
  have hpieces : (ofText ((ofText t).replace i l).toText).pieces =
      (Text.pieces t).modify i fun p => l ++ (splitLineEnd p).2.text :=
    pieces_replace hl.newline hl.ne_nil i
  show ((ofText ((ofText t).replace i l).toText).pieces.modify i _).flatten =
    ((Text.pieces t).modify i _).flatten
  rw [hpieces, List.modify_modify_eq]
  congr 1
  ext j : 1
  by_cases hj : i = j
  · subst hj
    cases hp : (Text.pieces t)[i]? with
    | none => simp [hp]
    | some p => simp [hp, hl.splitLineEnd_eq hp]
  · rw [List.getElem?_modify_ne _ _ hj, List.getElem?_modify_ne _ _ hj]

/-- Two lines are put in place in either order. -/
theorem replace_comm {t l l' : Text} {i j : Nat} (hl : FitsLine t i l) (hl' : FitsLine t j l')
    (hij : i ≠ j) :
    ((ofText ((ofText t).replace i l).toText).replace j l').toText =
      ((ofText ((ofText t).replace j l').toText).replace i l).toText := by
  have hpieces : (ofText ((ofText t).replace i l).toText).pieces =
      (Text.pieces t).modify i fun p => l ++ (splitLineEnd p).2.text :=
    pieces_replace hl.newline hl.ne_nil i
  have hpieces' : (ofText ((ofText t).replace j l').toText).pieces =
      (Text.pieces t).modify j fun p => l' ++ (splitLineEnd p).2.text :=
    pieces_replace hl'.newline hl'.ne_nil j
  show ((ofText ((ofText t).replace i l).toText).pieces.modify j _).flatten =
    ((ofText ((ofText t).replace j l').toText).pieces.modify i _).flatten
  rw [hpieces, hpieces', List.modify_modify_ne _ _ _ hij]

/-- A line put where it stands changes nothing. -/
theorem replace_self {t l : Text} {i : Nat} (h : (Text.lines t)[i]? = some l) :
    ((ofText t).replace i l).toText = t := by
  obtain ⟨p, hp, rfl⟩ := getElem?_pieces_of_lines h
  have hpieces : (Text.pieces t).modify i (fun q => (splitLineEnd p).1 ++ (splitLineEnd q).2.text) =
      Text.pieces t := by
    ext j : 1
    by_cases hj : i = j
    · subst hj
      simp [hp, splitLineEnd_append]
    · rw [List.getElem?_modify_ne _ _ hj]
  show ((Text.pieces t).modify i _).flatten = t
  rw [hpieces, Text.flatten_pieces]

/-- Only the line itself leaves the text as it was. -/
theorem replace_eq_self_iff {t l line : Text} {i : Nat} (hl : FitsLine t i l)
    (h : (Text.lines t)[i]? = some line) : ((ofText t).replace i l).toText = t ↔ l = line := by
  constructor
  · intro heq
    have hlines := lines_replace hl
    rw [heq] at hlines
    have hi := (List.getElem?_eq_some_iff.1 h).1
    have hget : (Text.lines t)[i]? = some l := by
      conv_lhs => rw [hlines]
      exact List.getElem?_set_self hi
    exact Option.some.inj (hget.symm.trans h)
  · rintro rfl
    exact replace_self h

end LineBuffer

/-! ## The declaration to edit -/

/-- The first declaration of `name` is the statement `s` on line `i`, and it ends there. -/
structure DeclaredOn (kind : Kind) (t name : Text) (i : Nat) (line : Text) (s : Statement) :
    Prop where
  found : declarationLine? kind t name = some i
  line_eq : (Text.lines t)[i]? = some line
  isOn : s.IsOn kind line
  single : continues line = false

theorem declares_iff {kind : Kind} {name line : Text} :
    declares kind name line = true ↔ ∃ s, Statement.read? kind line = some s ∧ s.name = name := by
  unfold declares
  cases Statement.read? kind line <;> simp

theorem declarationLine?_eq_some_iff {kind : Kind} {t name : Text} {i : Nat} :
    declarationLine? kind t name = some i ↔
      (∃ l, (Text.lines t)[i]? = some l ∧ declares kind name l = true) ∧
        ∀ j < i, ∀ l, (Text.lines t)[j]? = some l → declares kind name l = false := by
  rw [declarationLine?, List.findIdx?_eq_some_iff_getElem]
  constructor
  · rintro ⟨hi, hl, hbefore⟩
    refine ⟨⟨_, List.getElem?_eq_getElem hi, hl⟩, ?_⟩
    intro j hj l hl
    obtain ⟨_, rfl⟩ := List.getElem?_eq_some_iff.1 hl
    simpa using hbefore j hj
  · rintro ⟨⟨l, hl, hdeclares⟩, hbefore⟩
    obtain ⟨hi, rfl⟩ := List.getElem?_eq_some_iff.1 hl
    refine ⟨hi, hdeclares, ?_⟩
    intro j hj
    simpa using hbefore j hj _ (List.getElem?_eq_getElem (Nat.lt_trans hj hi))

/-- A search does not see that a member gives way to one that it takes the same way. -/
theorem findIdx?_set {α : Type} {p : α → Bool} {xs : List α} {x y : α} {i : Nat}
    (hx : xs[i]? = some x) (h : p y = p x) : (xs.set i y).findIdx? p = xs.findIdx? p := by
  have hmap : (xs.set i y).map p = xs.map p := by
    obtain ⟨hi, rfl⟩ := List.getElem?_eq_some_iff.1 hx
    rw [List.map_set, h, ← List.getElem_map p (h := by simpa using hi), List.set_getElem_self]
  have hid : ∀ ys : List α, ys.findIdx? p = (ys.map p).findIdx? id := by
    intro ys
    rw [List.findIdx?_map, Function.id_comp]
  rw [hid, hid, hmap]

/-- The line that is found is edited unless it goes on. -/
theorem declarationToEdit_of_read? {kind : Kind} {t name line : Text} {i : Nat} {s : Statement}
    (hfound : declarationLine? kind t name = some i) (hline : (Text.lines t)[i]? = some line)
    (hread : Statement.read? kind line = some s) : declarationToEdit kind t name =
      if continues line then .error (.multiLineDeclaration name) else .ok (i, line, s) := by
  simp only [declarationToEdit, hfound, LineBuffer.content_ofText hline, hread]

theorem declarationToEdit_eq_ok_iff {kind : Kind} {t name line : Text} {i : Nat} {s : Statement} :
    declarationToEdit kind t name = .ok (i, line, s) ↔ DeclaredOn kind t name i line s := by
  constructor
  · intro h
    unfold declarationToEdit at h
    split at h
    · simp at h
    · rename_i j hj
      obtain ⟨⟨l, hl, -⟩, -⟩ := declarationLine?_eq_some_iff.1 hj
      simp only [LineBuffer.content_ofText hl] at h
      split at h
      · simp at h
      · rename_i w hw
        split at h
        · simp at h
        · rename_i hcont
          simp only [Except.ok.injEq, Prod.mk.injEq] at h
          obtain ⟨rfl, rfl, rfl⟩ := h
          exact ⟨hj, hl, Statement.isOn_of_read? hw, by simpa using hcont⟩
  · rintro ⟨hfound, hline, hon, hsingle⟩
    rw [declarationToEdit_of_read? hfound hline hon.read?_eq, hsingle]
    rfl

theorem pin_eq_ok_iff {kind : Kind} {t name constraint : Text} {style : Style} {r : Revision} :
    pin t kind name constraint style = .ok r ↔ ∃ i line s, DeclaredOn kind t name i line s ∧
      r = .ofLine t i (s.pinned constraint (style.quote.getD s.quote)) := by
  have hresolve : ∀ {line s}, Statement.read? kind line = some s →
      QuoteStyle.resolve style.quote (some line) style.defaultQuote =
        style.quote.getD s.quote := by
    intro line s h
    rw [QuoteStyle.resolve, Option.bind_some, Statement.detect?_eq h]
    cases style.quote <;> rfl
  unfold pin
  constructor
  · intro h
    cases hd : declarationToEdit kind t name with
    | error e =>
      rw [hd] at h
      cases h
    | ok d =>
      obtain ⟨i, line, s⟩ := d
      rw [hd] at h
      have hon := declarationToEdit_eq_ok_iff.1 hd
      refine ⟨i, line, s, hon, ?_⟩
      rw [← hresolve hon.isOn.read?_eq]
      exact (Except.ok.inj h).symm
  · rintro ⟨i, line, s, hon, rfl⟩
    rw [declarationToEdit_eq_ok_iff.2 hon, ← hresolve hon.isOn.read?_eq]
    rfl

theorem unpin_eq_ok_iff {kind : Kind} {t name : Text} {r : Option Revision} :
    unpin t kind name = .ok r ↔ ∃ i line s, DeclaredOn kind t name i line s ∧
      r = if hasVersionArgument s.rest then some (.ofLine t i s.unpinned) else none := by
  unfold unpin
  constructor
  · intro h
    cases hd : declarationToEdit kind t name with
    | error e =>
      rw [hd] at h
      cases h
    | ok d =>
      obtain ⟨i, line, s⟩ := d
      rw [hd] at h
      refine ⟨i, line, s, declarationToEdit_eq_ok_iff.1 hd, ?_⟩
      change (if hasVersionArgument s.rest then _ else _) = _ at h
      split at h
      · rename_i hv
        rw [if_pos hv]
        exact (Except.ok.inj h).symm
      · rename_i hv
        rw [if_neg hv]
        exact (Except.ok.inj h).symm
  · rintro ⟨i, line, s, hon, rfl⟩
    rw [declarationToEdit_eq_ok_iff.2 hon]
    change (if hasVersionArgument s.rest then _ else _) = _
    split <;> rfl

/-! ## Heads -/

theorem Statement.IsOn.isFinished_headIn {s : Statement} {kind : Kind} {line : Text}
    (h : s.IsOn kind line) (q : QuoteStyle) : IsFinished (s.headIn q) := by
  unfold Statement.headIn
  split
  · exact h.isFinished_head
  · exact (isLiteral_wrap q s.name).isFinished.append_left h.quiet.isUncommented

/-- A constraint written behind a head ends the line of its own. -/
theorem Statement.IsOn.isFinished_constraint {s : Statement} {kind : Kind} {line : Text}
    (h : s.IsOn kind line) (q : QuoteStyle) (constraint : Text) :
    IsFinished (s.headIn q ++ ", ".toList ++ q.wrap constraint) := by
  exact (isLiteral_wrap q constraint).isFinished.append_left
    ((h.isFinished_headIn q).uncommented.append isFlat_separator.isUncommented)

/-- A name that needs no backslashes is written as it is, in either quotes. -/
theorem Statement.headIn_eq {s : Statement} {q : QuoteStyle}
    (hq : s.quote = q ∨ q.escape s.name = s.name) :
    s.headIn q = Statement.head { s with quote := q } := by
  unfold Statement.headIn
  split
  · rename_i heq
    subst heq
    rfl
  · rename_i hne
    rw [QuoteStyle.wrap, hq.resolve_left hne]
    rfl

theorem Statement.leaves_name {s : Statement} {kind : Kind} {line : Text} {q : QuoteStyle}
    (h : s.IsOn kind line) (hq : s.quote = q ∨ q.escape s.name = s.name) :
    Zone.Leaves (.literal q) (s.name ++ [q.mark]) := by
  rcases hq with rfl | hq
  · exact h.literal
  · have hleaves := leaves_escape q s.name
    rwa [hq] at hleaves

namespace DeclaredOn

variable {kind : Kind} {t name line : Text} {i : Nat} {s : Statement}
  (h : DeclaredOn kind t name i line s)

include h

theorem name_eq : s.name = name := by
  obtain ⟨⟨l, hl, hdeclares⟩, -⟩ := declarationLine?_eq_some_iff.1 h.found
  obtain rfl : line = l := by simpa [h.line_eq] using hl
  obtain ⟨w, hw, hname⟩ := declares_iff.1 hdeclares
  obtain rfl : s = w := by simpa [h.isOn.read?_eq] using hw
  exact hname

theorem newline_notMem : '\n' ∉ line :=
  newline_notMem_of_mem_lines (List.mem_of_getElem? h.line_eq)

/-- The line is a finished text and what is left of its rest without version arguments. -/
theorem exists_prefix : ∃ k, IsFinished k ∧ line = k ++ dropVersionArguments s.rest := by
  have hhead := h.isOn.isFinished_head
  obtain ⟨dropped, hrest, hdropped⟩ := exists_dropped s.rest
  refine ⟨s.head ++ dropped, ?_, ?_⟩
  · rcases hdropped with rfl | ⟨hd, -⟩
    · rwa [List.append_nil]
    · exact hd.append_left hhead.uncommented
  · rw [List.append_assoc, ← hrest, h.isOn.head_append_rest]

/-- What is left of the rest may stand behind any finished text on the line. -/
theorem fitsLine {k : Text} (hk : IsFinished k) (hnew : '\n' ∉ k) :
    FitsLine t i (k ++ dropVersionArguments s.rest) := by
  obtain ⟨k', -, hline⟩ := h.exists_prefix
  have hget := h.line_eq
  rw [hline] at hget
  exact fitsLine_append hk hnew hget

theorem continues_append {k : Text} (hk : IsFinished k) :
    continues (k ++ dropVersionArguments s.rest) = false := by
  obtain ⟨k', hk', hline⟩ := h.exists_prefix
  have hsingle := h.single
  rw [hline, GemDeps.continues_append hk'] at hsingle
  rw [GemDeps.continues_append hk, hsingle]

theorem newline_notMem_headIn (q : QuoteStyle) : '\n' ∉ s.headIn q := by
  have hline := h.newline_notMem
  rw [← h.isOn.head_append_rest, List.mem_append, not_or] at hline
  unfold Statement.headIn
  split
  · exact hline.1
  · have hhead := hline.1
    simp only [Statement.head, List.mem_append, List.mem_cons, not_or] at hhead
    rw [List.mem_append, List.mem_append, not_or, not_or]
    exact ⟨hhead.1, newline_notMem_wrap q hhead.2.2.1⟩

/-- A statement put on the line is found there. -/
theorem replace {l : Text} {w : Statement} (hl : FitsLine t i l) (hw : w.IsOn kind l)
    (hname : w.name = name) (hsingle : continues l = false) :
    DeclaredOn kind ((LineBuffer.ofText t).replace i l).toText name i l w := by
  have hlines := LineBuffer.lines_replace hl
  obtain ⟨hi, -⟩ := List.getElem?_eq_some_iff.1 h.line_eq
  have hget : ((Text.lines t).set i l)[i]? = some l := List.getElem?_set_self hi
  refine ⟨?_, hlines ▸ hget, hw, hsingle⟩
  rw [declarationLine?_eq_some_iff, hlines]
  refine ⟨⟨l, hget, declares_iff.2 ⟨w, hw.read?_eq, hname⟩⟩, ?_⟩
  intro j hj u hu
  rw [List.getElem?_set_ne (Nat.ne_of_gt hj)] at hu
  exact (declarationLine?_eq_some_iff.1 h.found).2 j hj u hu

/-- No other gem is declared on the line. -/
theorem declares_eq_false {m : Text} (hm : m ≠ name) : declares kind m line = false := by
  rw [declares, h.isOn.read?_eq]
  show decide (s.name = m) = false
  rw [h.name_eq]
  simpa using hm.symm

/-- A declaration rewritten on its line is no other gem's, so the others are found as before. -/
theorem declarationToEdit_replace {l m : Text} {w : Statement} (hl : FitsLine t i l)
    (hw : DeclaredOn kind ((LineBuffer.ofText t).replace i l).toText name i l w) (hm : m ≠ name) :
    declarationToEdit kind ((LineBuffer.ofText t).replace i l).toText m =
      declarationToEdit kind t m := by
  have hlines := LineBuffer.lines_replace hl
  have hfound : declarationLine? kind ((LineBuffer.ofText t).replace i l).toText m =
      declarationLine? kind t m := by
    unfold declarationLine?
    rw [hlines]
    exact findIdx?_set h.line_eq ((hw.declares_eq_false hm).trans (h.declares_eq_false hm).symm)
  unfold declarationToEdit
  rw [hfound]
  cases hj : declarationLine? kind t m with
  | none => rfl
  | some j =>
    obtain ⟨⟨u, hu, hdeclares⟩, -⟩ := declarationLine?_eq_some_iff.1 hj
    have hij : i ≠ j := by
      rintro rfl
      obtain rfl : line = u := by simpa [h.line_eq] using hu
      simp [h.declares_eq_false hm] at hdeclares
    have hu' : (Text.lines ((LineBuffer.ofText t).replace i l).toText)[j]? = some u := by
      rw [hlines, List.getElem?_set_ne hij, hu]
    simp only [LineBuffer.content_ofText hu, LineBuffer.content_ofText hu']

/-- The declaration after pinning in quotes of style `q`, if its name is the same in them. -/
theorem pinned {constraint : Text} {q : QuoteStyle} (hconstraint : '\n' ∉ constraint)
    (hq : s.quote = q ∨ q.escape s.name = s.name) :
    FitsLine t i (s.pinned constraint q) ∧
      DeclaredOn kind (Revision.ofLine t i (s.pinned constraint q)).text name i
        (s.pinned constraint q)
        { s with
          quote := q
          rest := ", ".toList ++ q.wrap constraint ++ dropVersionArguments s.rest } := by
  have hk := h.isOn.isFinished_constraint q constraint
  have hnew : '\n' ∉ s.headIn q ++ ", ".toList ++ q.wrap constraint := by
    rw [List.mem_append, List.mem_append, not_or, not_or]
    exact ⟨⟨h.newline_notMem_headIn q, by decide⟩, newline_notMem_wrap q hconstraint⟩
  have hfits := h.fitsLine hk hnew
  have hon := h.isOn.replace (Statement.leaves_name h.isOn hq) h.isOn.name_ne_nil h.isOn.static
    (", ".toList ++ q.wrap constraint ++ dropVersionArguments s.rest)
  have hline : Statement.head { s with quote := q } ++
      (", ".toList ++ q.wrap constraint ++ dropVersionArguments s.rest) =
        s.pinned constraint q := by
    rw [Statement.pinned, Statement.headIn_eq hq]
    simp only [List.append_assoc]
  refine ⟨hfits, h.replace hfits ?_ h.name_eq (h.continues_append hk)⟩
  rw [← hline]
  exact hon

/-- The declaration after unpinning. -/
theorem unpinned : FitsLine t i s.unpinned ∧
    DeclaredOn kind (Revision.ofLine t i s.unpinned).text name i s.unpinned
      { s with rest := dropVersionArguments s.rest } := by
  have hline := h.newline_notMem
  rw [← h.isOn.head_append_rest, List.mem_append, not_or] at hline
  have hfits := h.fitsLine h.isOn.isFinished_head hline.1
  have hon := h.isOn.replace h.isOn.literal h.isOn.name_ne_nil h.isOn.static
    (dropVersionArguments s.rest)
  exact ⟨hfits, h.replace hfits hon h.name_eq (h.continues_append h.isOn.isFinished_head)⟩

end DeclaredOn

/-- The second of two edits of one line is the only one that shows. -/
theorem ofLine_ofLine {t l l' : Text} {i : Nat} (hl : FitsLine t i l) :
    Revision.ofLine (Revision.ofLine t i l).text i l' = Revision.ofLine t i l' := by
  unfold Revision.ofLine
  rw [LineBuffer.replace_replace hl]

end GemDeps
