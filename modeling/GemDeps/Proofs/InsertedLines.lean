import GemDeps.Proofs.Frame
import GemDeps.Proofs.ReaderRun
import GemDeps.Proofs.Requirement

/-!
# Reading around inserted lines

The lines of a text with lines inserted are those in front of them, the new ones and those behind
them (`lines_ofInsertion`). Behind a last line without a line feed the line feed that is added may
take a carriage return off that line; no reader sees it, since blanks at the end of a line change
neither its statement nor its meaning (`Gemfile.readLines_kept`).
-/

namespace GemDeps

/-! ## The lines of an insertion -/

/-- The lines in front of inserted ones are kept, but a last line that gets a line feed may lose a
carriage return to it. -/
inductive KeepsLines : List Text → List Text → Prop
  | same (ls : List Text) : KeepsLines ls ls
  | shortened (ls : List Text) (l : Text) : KeepsLines (ls ++ [l ++ ['\r']]) (ls ++ [l])

theorem KeepsLines.length_eq {old kept : List Text} (h : KeepsLines old kept) :
    kept.length = old.length := by
  cases h with
  | same => rfl
  | shortened ls l => rw [List.length_append, List.length_append]; rfl

/-- What stands on an open line that gets a line end. -/
theorem keepsLines_lineEnd {p : Text} {e : LineEnd} (hp : '\n' ∉ p) (he : e ≠ .open)
    (ls : List Text) : KeepsLines (ls ++ [p]) (ls ++ [(splitLineEnd (p ++ e.text)).1]) := by
  by_cases hr : e = .lf ∧ p.getLast? = some '\r'
  · obtain ⟨rfl, hr⟩ := hr
    obtain ⟨k, rfl⟩ := List.getLast?_eq_some_iff.1 hr
    have hk : '\n' ∉ k := by simpa using hp
    have hsplit := splitLineEnd_append_text (e := .crlf) hk (by simp)
    have htext : k ++ ['\r'] ++ LineEnd.lf.text = k ++ LineEnd.crlf.text := by simp [LineEnd.text]
    rw [htext, hsplit]
    exact .shortened ls k
  · have hsplit := splitLineEnd_append_text (e := e) hp fun he' hr' => hr ⟨he', hr'⟩
    rw [hsplit]
    exact .same _

theorem map_splitLineEnd_terminated {b : LineBuffer} {new : List Text}
    (hnew : ∀ l ∈ new, IsLine l) :
    (b.terminated new).map (fun p => (splitLineEnd p).1) = new := by
  rw [LineBuffer.terminated, List.map_map]
  refine (List.map_congr_left fun l hl => ?_).trans (List.map_id _)
  rw [Function.comp, (hnew l hl).splitLineEnd_append]
  rfl

/-- The lines of a text with lines inserted: only behind the last line does a line in front of them
change. -/
theorem lines_ofInsertion {t : Text} {i : Nat} {new : List Text} (hi : i ≤ (Text.lines t).length)
    (hends : PlainEnds new) (hline : ∀ k ∈ new, '\n' ∉ k) :
    ∃ kept, KeepsLines ((Text.lines t).take i) kept ∧
      (i < (Text.lines t).length → kept = (Text.lines t).take i) ∧
      Text.lines (Revision.ofInsertion t i new).text = kept ++ new ++ (Text.lines t).drop i := by
  obtain ⟨⟨new, l, rfl, hne⟩, hlast⟩ := hends
  have hall : ∀ k ∈ new ++ [l], IsLine k := fun k hk => ⟨hline k hk, hlast k hk⟩
  obtain ⟨hnew, hl⟩ := List.forall_mem_append.1 hall
  have hl := List.forall_mem_singleton.1 hl
  have hlines := map_splitLineEnd_pieces t
  have hlength := length_lines t
  by_cases hopen : i = (Text.pieces t).length ∧ (LineBuffer.ofText t).isOpen = true
  · obtain ⟨rfl, hopen⟩ := hopen
    obtain ⟨ps, p, hps, hp⟩ := LineBuffer.isOpen_iff.1 hopen
    have hpieces : Text.pieces
        (Revision.ofInsertion t (Text.pieces t).length (new ++ [l])).text = _ :=
      LineBuffer.pieces_insert_of_isOpen hps hp ⟨hne, hl.1⟩ fun k hk => (hnew k hk).1
    rw [hps, List.map_append, List.map_singleton, splitLineEnd_of_isOpen hp] at hlines
    have hkept := keepsLines_lineEnd hp.2 (LineBuffer.newlineOf_ne_open (Text.pieces t))
      (ps.map fun p => (splitLineEnd p).1)
    rw [hlines, ← List.take_length (l := Text.lines t), hlength] at hkept
    refine ⟨_, hkept, fun hlt => absurd hlt (by omega), ?_⟩
    · rw [← map_splitLineEnd_pieces, hpieces, ← hlength, List.drop_length]
      simp only [List.map_append, List.map_singleton, map_splitLineEnd_terminated hnew,
        splitLineEnd_of_isOpen (p := l) ⟨hne, hl.1⟩, List.append_nil, List.append_assoc]
      rfl
  · refine ⟨_, .same _, fun _ => rfl, ?_⟩
    have hpieces : Text.pieces (Revision.ofInsertion t i (new ++ [l])).text = _ :=
      LineBuffer.pieces_insert (by omega) hopen (by simp) fun k hk => (hall k hk).1
    rw [← map_splitLineEnd_pieces, hpieces, List.map_append, List.map_append,
      map_splitLineEnd_terminated hall, List.map_take, List.map_drop, hlines]

/-! ## Blanks at the end of a line -/

section Blanks

variable {b : Text} (hb : Text.IsBlanks b)

include hb

/-- Blanks at the end of a line go to its code or to its comment. -/
theorem splitComment_append_blanks (z : Zone) (t : Text) :
    (splitComment z (t ++ b)).1 = (splitComment z t).1 ++ b ∨
      (splitComment z (t ++ b)).1 = (splitComment z t).1 := by
  induction t generalizing z with
  | nil =>
    refine .inl ?_
    rw [List.nil_append, splitComment, List.nil_append]
    induction b generalizing z with
    | nil => rfl
    | cons c b ih =>
      obtain ⟨hc, hb⟩ := List.forall_mem_cons.1 hb
      have hhash : c ≠ '#' := by
        rintro rfl
        exact absurd hc (by decide)
      rw [splitComment, if_neg (by simp [hhash]), ih hb]
  | cons c t ih =>
    rw [List.cons_append, splitComment, splitComment]
    split
    · exact .inr rfl
    · rcases ih (z.next c) with h | h
      · exact .inl (congrArg (c :: ·) h)
      · exact .inr (congrArg (c :: ·) h)

theorem exists_stripComment_append (t : Text) :
    ∃ b', Text.IsBlanks b' ∧ stripComment (t ++ b) = stripComment t ++ b' := by
  rcases splitComment_append_blanks hb .code t with h | h
  · exact ⟨b, hb, h⟩
  · exact ⟨[], List.forall_mem_nil _, by rw [List.append_nil]; exact h⟩

theorem trim_append_blanks (t : Text) : Text.trim (t ++ b) = Text.trim t :=
  Text.trim_append (b := []) (List.forall_mem_nil _) hb t

theorem trim_stripComment_append (t : Text) :
    Text.trim (stripComment (t ++ b)) = Text.trim (stripComment t) := by
  obtain ⟨b', hb', h⟩ := exists_stripComment_append hb t
  rw [h, trim_append_blanks hb']

/-- Blanks at the end belong to the last piece. -/
theorem splitCommas_append_blanks (z : Zone) (d : Nat) (t : Text) :
    ∃ ps p, splitCommas z d t = ps ++ [p] ∧ splitCommas z d (t ++ b) = ps ++ [p ++ b] := by
  induction t generalizing z d with
  | nil =>
    refine ⟨[], [], rfl, ?_⟩
    rw [List.nil_append, List.nil_append]
    induction b generalizing z d with
    | nil => rfl
    | cons c b ih =>
      obtain ⟨hc, hb⟩ := List.forall_mem_cons.1 hb
      have hcomma : c ≠ ',' := by
        rintro rfl
        exact absurd hc (by decide)
      rw [splitCommas, if_neg (by simp [hcomma]), ih hb]
      rfl
  | cons c t ih =>
    rw [List.cons_append, splitCommas, splitCommas]
    split
    · obtain ⟨ps, p, hps, hps'⟩ := ih z d
      exact ⟨[] :: ps, p, by rw [hps]; rfl, by rw [hps']; rfl⟩
    · obtain ⟨ps, p, hps, hps'⟩ := ih (z.next c) (bracketDepth z d c)
      rw [hps, hps']
      cases ps with
      | nil => exact ⟨[], c :: p, rfl, rfl⟩
      | cons q ps => exact ⟨(c :: q) :: ps, p, rfl, rfl⟩

theorem splitArguments_append_blanks (t : Text) :
    splitArguments (t ++ b) = splitArguments t := by
  obtain ⟨ps, p, hps, hps'⟩ := splitCommas_append_blanks hb .code 0 t
  rw [splitArguments, splitArguments, hps, hps']
  simp [trim_append_blanks hb]

theorem beforeClosingParen?_append_blanks (z : Zone) (d : Nat) (t : Text) :
    beforeClosingParen? z d (t ++ b) = beforeClosingParen? z d t := by
  induction t generalizing z d with
  | nil =>
    rw [List.nil_append, beforeClosingParen?]
    induction b generalizing z d with
    | nil => rfl
    | cons c b ih =>
      obtain ⟨hc, hb⟩ := List.forall_mem_cons.1 hb
      have hparen : c ≠ ')' := by
        rintro rfl
        exact absurd hc (by decide)
      rw [beforeClosingParen?, ih hb]
      simp [hparen]
  | cons c t ih => rw [List.cons_append, beforeClosingParen?, beforeClosingParen?, ih]

end Blanks

namespace Statement

variable {b : Text} (hb : Text.IsBlanks b)

include hb

/-- Blanks at the end of a line belong to the rest behind the name. -/
theorem read?_append_blanks (kind : Kind) (line : Text) :
    read? kind (line ++ b) = (read? kind line).map fun s => { s with rest := s.rest ++ b } := by
  have hgrow : ∀ {line s}, read? kind line = some s →
      read? kind (line ++ b) = some { s with rest := s.rest ++ b } := by
    intro line s hs
    have hon := isOn_of_read? hs
    conv => lhs; rw [hon.line_eq]
    rw [← hon.read?_of_name s.quote s.name (s.rest ++ b) hon.literal hon.name_ne_nil hon.static]
    simp only [List.append_assoc, List.cons_append]
  cases hs : read? kind line with
  | some s => exact hgrow hs
  | none =>
    cases hs' : read? kind (line ++ b) with
    | none => rfl
    | some s =>
      -- The head ends in a quote, which is no blank, so it stands on the line without the blanks.
      have hon := isOn_of_read? hs'
      have hsplit := hon.head_append_rest
      have hlast : s.head.getLast? = some s.quote.mark := by
        rw [head, ← List.cons_append, ← List.append_assoc, List.getLast?_concat]
      obtain ⟨k, hline, -⟩ := Text.exists_append_of_append_blanks hlast (Text.isBlank_mark _) hb
        hon.head_append_rest
      have hagain := hon.read?_of_name s.quote s.name k hon.literal hon.name_ne_nil hon.static
      rw [← head_append, ← hline, hs] at hagain
      cases hagain

/-- Blanks at the end of the rest stand at the end of the arguments, or nowhere. -/
theorem exists_arguments_append (s : Statement) :
    ∃ b', Text.IsBlanks b' ∧ arguments { s with rest := s.rest ++ b } = s.arguments ++ b' := by
  obtain ⟨b₁, hb₁, hcode⟩ := exists_stripComment_append hb s.rest
  obtain ⟨b₂, hb₂, hinner⟩ : ∃ b₂, Text.IsBlanks b₂ ∧
      argumentText { s with rest := s.rest ++ b } = s.argumentText ++ b₂ := by
    unfold argumentText
    dsimp only
    rw [hcode, beforeClosingParen?_append_blanks hb₁]
    split
    · cases beforeClosingParen? .code 0 (stripComment s.rest) with
      | some u => exact ⟨[], List.forall_mem_nil _, (List.append_nil u).symm⟩
      | none => exact ⟨b₁, hb₁, rfl⟩
    · exact ⟨b₁, hb₁, rfl⟩
  refine ⟨b₂, hb₂, ?_⟩
  have hsplit := Text.indentation_append_trimStart s.argumentText
  have hblanks := Text.isBlanks_indentation s.argumentText
  cases htext : Text.trimStart s.argumentText with
  | nil =>
    have hblank : Text.IsBlanks s.argumentText := Text.trimStart_eq_nil_iff.1 htext
    rw [arguments_of_isBlanks hblank, arguments_of_isBlanks (by
      rw [hinner]
      exact List.forall_mem_append.2 ⟨hblank, hb₂⟩), hinner]
  | cons c r =>
    have htext' : Text.trimStart (argumentText { s with rest := s.rest ++ b }) =
        c :: (r ++ b₂) := by
      rw [hinner, ← hsplit, htext, List.append_assoc, Text.trimStart_append hblanks,
        List.cons_append, Text.trimStart_cons (Text.isBlank_of_trimStart htext)]
    by_cases hc : c = ','
    · subst hc
      rw [arguments_of_comma htext, arguments_of_comma htext']
    · rw [arguments_of_ne_comma hc htext, arguments_of_ne_comma hc htext', hinner]

theorem splitArguments_arguments_append (s : Statement) :
    splitArguments (arguments { s with rest := s.rest ++ b }) = splitArguments s.arguments := by
  obtain ⟨b', hb', h⟩ := exists_arguments_append hb s
  rw [h, splitArguments_append_blanks hb']

end Statement

/-! ## Reading kept lines -/

theorem isBlanks_carriageReturn : Text.IsBlanks ['\r'] := List.forall_mem_singleton.2 (by decide)

namespace Gemfile

theorem ofLine_append_blanks {b l : Text} (hb : Text.IsBlanks b)
    (h : Statement.readGem? l = none) : Entry.ofLine (l ++ b) = Entry.ofLine l := by
  have hgem : Statement.readGem? (l ++ b) = none := by
    have := Statement.read?_append_blanks hb .gemfile l
    rwa [show Statement.read? .gemfile l = none from h] at this
  unfold Entry.ofLine
  dsimp only
  rw [trim_stripComment_append hb]
  unfold Entry.ofPlain
  rw [h, hgem]

/-- Blanks at the end of a line change nothing that is read. -/
theorem readLines_append_blanks {b : Text} (hb : Text.IsBlanks b) (s : State) (n : Nat)
    (l : Text) : readLines s n [l ++ b] = readLines s n [l] := by
  have hgem : Statement.readGem? (l ++ b) = _ := Statement.read?_append_blanks hb .gemfile l
  change _ = (Statement.readGem? l).map _ at hgem
  rw [readLines_cons, readLines_cons]
  cases hs : Statement.readGem? l with
  | none =>
    rw [hs, Option.map_none] at hgem
    rw [hgem, ofLine_append_blanks hb hs]
  | some stmt =>
    rw [hs, Option.map_some] at hgem
    have hdeclaration : declaration s n { stmt with rest := stmt.rest ++ b } =
        declaration s n stmt := by
      unfold declaration
      rw [Statement.splitArguments_arguments_append hb]
    rw [hgem, Option.map_some, Option.map_some, hdeclaration, Entry.ofLine_eq_gem_iff.2 hs,
      Entry.ofLine_eq_gem_iff.2 hgem]
    rfl

theorem readLines_kept {old kept : List Text} (h : KeepsLines old kept) (s : State) (n : Nat) :
    readLines s n kept = readLines s n old := by
  cases h with
  | same => rfl
  | shortened ls l =>
    rw [readLines_append, readLines_append, readLines_append_blanks isBlanks_carriageReturn]

end Gemfile

end GemDeps
