import GemDeps.Proofs.ByteScans

/-!
# Cuts at byte offsets

The scanners that cut a text where they come to stand: at the comment, at the commas between
arguments, and around a quoted literal, which may be looked for at any offset. None of their cuts
fails, and they make of a text what the library makes of it.
-/

namespace GemDeps.Checked

open Scan

/-! ## Comments -/

/-- The code of a line. -/
def stripComment (line : Text) : Checked Text :=
  match commentStart? line with
  | some i => line.slice 0 i
  | none => .ok line

theorem stripComment_eq (line : Text) : stripComment line = .ok (GemDeps.stripComment line) := by
  have hline : GemDeps.stripComment line ++ (splitComment .code line).2 = line :=
    splitComment_append .code line
  have hslice := Text.slice_prefix (GemDeps.stripComment line) (splitComment .code line).2
  rw [hline] at hslice
  unfold stripComment
  rw [commentStart?_eq, GemDeps.commentStart?]
  by_cases hcomment : (splitComment .code line).2 = []
  · rw [hcomment, List.append_nil] at hline
    rw [hcomment, hline]
    rfl
  · rw [if_neg (by simpa using hcomment)]
    exact hslice

/-! ## Arguments -/

/-- What a scan for arguments has found. -/
structure Pieces where
  /-- The number of open brackets. -/
  depth : Nat
  /-- Where the argument starts in which the scan stands. -/
  start : Nat
  /-- The arguments before it. -/
  arguments : List Text

/-- The arguments with one more, trimmed, unless it is empty. -/
def pushArgument (arguments : List Text) (piece : Text) : List Text :=
  if piece.trim.isEmpty then arguments else arguments ++ [piece.trim]

/-- Counts the open brackets, and cuts at a comma outside them. -/
def visitComma (t : Text) (s : Pieces) (i : Nat) (c : Char) : Fault ⊕ Pieces :=
  if opensBracket c then .inr { s with depth := s.depth + 1 }
  else if closesBracket c then .inr { s with depth := s.depth - 1 }
  else if c = ',' ∧ s.depth = 0 then
    match t.slice s.start i with
    | .ok piece => .inr ⟨s.depth, i + 1, pushArgument s.arguments piece⟩
    | .error e => .inl e
  else .inr s

/-- The arguments at the end of a scan, with the last one. -/
def lastArgument (t : Text) : Fault ⊕ Pieces → Checked (List Text)
  | .inl e => .error e
  | .inr s => do
    let piece ← t.slice (min s.start t.size) t.size
    return pushArgument s.arguments piece

/-- The arguments of a call, trimmed; pieces of blanks alone are dropped. -/
def splitArguments (t : Text) : Checked (List Text) :=
  lastArgument t (Scan.bytes (visitComma t) (Text.bytes t) none ⟨0, 0, []⟩ 0)

/-- The pieces without blanks around them and without those of blanks alone. -/
def trimmed (ps : List Text) : List Text := (ps.map Text.trim).filter (!·.isEmpty)

theorem pushArgument_eq (as : List Text) (p : Text) : pushArgument as p = as ++ trimmed [p] := by
  unfold pushArgument trimmed
  cases h : p.trim with
  | nil => simp [h]
  | cons c r => simp [h]

theorem trimmed_cons (p : Text) (ps : List Text) :
    trimmed (p :: ps) = trimmed [p] ++ trimmed ps := by
  unfold trimmed
  rw [List.map_cons, List.filter_cons]
  split <;> simp_all

/-- A comma outside brackets cuts; every other character is a bracket or not. -/
theorem visitComma_eq (t : Text) (s : Pieces) (i : Nat) (c : Char) :
    visitComma t s i c =
      if c = ',' ∧ s.depth = 0 then
        match t.slice s.start i with
        | .ok piece => .inr ⟨s.depth, i + 1, pushArgument s.arguments piece⟩
        | .error e => .inl e
      else .inr { s with depth := bracketDepth .code s.depth c } := by
  unfold visitComma bracketDepth
  rw [show Zone.isCode .code = true from rfl, if_pos rfl]
  by_cases hopens : opensBracket c = true
  · have hcomma : c ≠ ',' := by
      rintro rfl
      exact absurd hopens (by decide)
    simp [hopens, hcomma]
  · by_cases hcloses : closesBracket c = true
    · have hcomma : c ≠ ',' := by
        rintro rfl
        exact absurd hcloses (by decide)
      simp [hopens, hcloses, hcomma]
    · simp [hopens, hcloses]

theorem skipsNonAscii_visitComma (t : Text) : SkipsNonAscii (visitComma t) := fun s i c hc => by
  obtain ⟨hopens, hcloses⟩ := bracket_of_not_isAscii hc
  rw [visitComma_eq, if_neg fun h => Text.ne_of_not_isAscii hc (by decide) h.1, bracketDepth,
    hopens, hcloses]
  rfl

/-- A scan that stands behind `v` in the argument that starts behind `u` cuts the rest as the
library does. -/
theorem lastArgument_text (z : Zone) (d : Nat) (as : List Text) (u v w : Text) :
    lastArgument (u ++ (v ++ w)) (Scan.text (visitComma (u ++ (v ++ w))) z ⟨d, u.size, as⟩
      (u.size + v.size) w) = .ok (as ++ trimmed (v.foldr consFirst (splitCommas z d w))) := by
  induction w generalizing z d as u v with
  | nil =>
    have hslice := Text.slice_suffix u v
    rw [List.append_nil]
    show (do
      let piece ← (u ++ v).slice (min u.size (u ++ v).size) (u ++ v).size
      return pushArgument as piece : Checked _) = _
    rw [Nat.min_eq_left (by rw [Text.size_append]; omega), hslice, splitCommas, foldr_consFirst,
      List.append_nil, ← pushArgument_eq]
    rfl
  | cons c w ih =>
    -- Any character but a comma that cuts belongs to the argument in which the scan stands.
    have hrest : ∀ z' d', lastArgument (u ++ (v ++ c :: w))
        (Scan.text (visitComma (u ++ (v ++ c :: w))) z' ⟨d', u.size, as⟩
          (u.size + v.size + c.utf8Size) w) =
        .ok (as ++ trimmed (v.foldr consFirst (consFirst c (splitCommas z' d' w)))) := by
      intro z' d'
      have h := ih z' d' as u (v ++ [c])
      rwa [← List.append_cons, Text.size_concat, ← Nat.add_assoc, List.foldr_concat] at h
    rcases code_or_isQuoted z c with ⟨rfl, hc⟩ | hquoted
    · rw [text_cons_of_code hc, visitComma_eq, splitCommas, next_code hc]
      by_cases hcomma : c = ',' ∧ d = 0
      · obtain ⟨rfl, rfl⟩ := hcomma
        have h := ih .code 0 (pushArgument as v) (u ++ v ++ [',']) []
        rw [List.nil_append, ← List.append_cons, List.append_assoc, Text.size_concat,
          Text.size_append, List.foldr_nil] at h
        have hcut : (Zone.isCode .code && ',' == ',' && 0 == 0) = true := rfl
        have hpush : as ++ trimmed (v :: splitCommas .code 0 w) =
            pushArgument as v ++ trimmed (splitCommas .code 0 w) := by
          rw [trimmed_cons, ← List.append_assoc, ← pushArgument_eq]
        rw [if_pos ⟨rfl, rfl⟩, if_pos hcut, Text.slice_append, foldr_consFirst, List.append_nil,
          hpush, ← h]
        simp only [Nat.add_assoc]
        rfl
      · rw [if_neg hcomma, if_neg (by simpa [Zone.isCode] using hcomma)]
        exact hrest _ _
    · rw [text_cons_of_isQuoted hquoted, splitCommas, hquoted.isCode_and rfl,
        bracketDepth_of_isQuoted hquoted]
      exact hrest _ _

theorem splitArguments_eq (t : Text) : splitArguments t = .ok (GemDeps.splitArguments t) := by
  unfold splitArguments
  rw [bytes_eq_text_code (skipsNonAscii_visitComma t)]
  exact lastArgument_text .code 0 [] [] [] t

/-! ## Literals -/

/-- A literal that has been found. -/
structure QuotedAt where
  /-- The quotes around it. -/
  style : QuoteStyle
  /-- What stands between the quotes. -/
  value : Text
  /-- The offset behind the closing quote. -/
  stop : Nat
  deriving DecidableEq, Repr

/-- The index of the first byte from `i` on that is no space and no tab. -/
def skipGap (bs : List UInt8) (i : Nat) : Nat :=
  match _h : bs[i]? with
  | none => i
  | some b => if Quoted.isGap (Char.ofUInt8 b) then skipGap bs (i + 1) else i
termination_by bs.length - i
decreasing_by
  obtain ⟨hi, -⟩ := List.getElem?_eq_some_iff.1 _h
  omega

/-- The index of the quote that closes a literal, from inside it. -/
def closingQuote? (bs : List UInt8) (q : QuoteStyle) (i : Nat) : Option Nat :=
  match _h : bs[i]? with
  | none => none
  | some b =>
    if Char.ofUInt8 b = q.mark then some i
    else closingQuote? bs q (if Char.ofUInt8 b = '\\' then i + 2 else i + 1)
termination_by bs.length - i
decreasing_by
  obtain ⟨hi, -⟩ := List.getElem?_eq_some_iff.1 _h
  split <;> omega

/-- The literal at an offset of a text, after spaces and tabs. -/
def quotedAt (t : Text) (start : Nat) : Checked (Option QuotedAt) :=
  let bs := Text.bytes t
  let i := skipGap bs start
  match (bs[i]?).bind fun b => QuoteStyle.ofMark? (Char.ofUInt8 b) with
  | none => .ok none
  | some q =>
    match closingQuote? bs q (i + 1) with
    | none => .ok none
    | some stop => do
      let value ← t.slice (i + 1) stop
      return some ⟨q, value, stop + 1⟩

section Loops

variable {bs : List UInt8} {i : Nat} {b : UInt8} {q : QuoteStyle}

theorem skipGap_of_none (h : bs[i]? = none) : skipGap bs i = i := by
  unfold skipGap
  split <;> simp_all

theorem skipGap_of_some (h : bs[i]? = some b) :
    skipGap bs i = if Quoted.isGap (Char.ofUInt8 b) then skipGap bs (i + 1) else i := by
  conv => lhs; unfold skipGap
  split <;> simp_all

theorem closingQuote?_of_none (h : bs[i]? = none) : closingQuote? bs q i = none := by
  unfold closingQuote?
  split <;> simp_all

theorem closingQuote?_of_some (h : bs[i]? = some b) :
    closingQuote? bs q i = if Char.ofUInt8 b = q.mark then some i
      else closingQuote? bs q (if Char.ofUInt8 b = '\\' then i + 2 else i + 1) := by
  conv => lhs; unfold closingQuote?
  split <;> simp_all

end Loops

theorem isGap_of_not_isAscii {c : Char} (hc : ¬ Text.IsAscii c) : Quoted.isGap c = false := by
  have hne := fun m => Text.beq_eq_false_of_not_isAscii (d := m) hc
  unfold Quoted.isGap
  rw [hne ' ' (by decide), hne '\t' (by decide)]
  rfl

/-- From between characters the gap that is skipped is that of the text. -/
theorem skipGap_bytes (u t : Text) :
    skipGap (Text.bytes (u ++ t)) u.size = u.size + Text.size (t.takeWhile Quoted.isGap) := by
  induction t generalizing u with
  | nil =>
    rw [List.append_nil, skipGap_of_none (Text.getElem?_bytes_of_size_le (Nat.le_refl _))]
    rfl
  | cons c t ih =>
    by_cases hc : Text.IsAscii c
    · rw [skipGap_of_some (hc.getElem?_bytes u t), hc.ofUInt8_toUInt8, List.takeWhile_cons]
      by_cases hgap : Quoted.isGap c = true
      · have h := ih (u ++ [c])
        rw [← List.append_cons, Text.size_concat, hc.size_eq] at h
        rw [if_pos hgap, if_pos hgap, h, Text.size_cons, hc.size_eq, Nat.add_assoc]
      · rw [if_neg hgap, if_neg hgap]
        rfl
    · obtain ⟨b, hb, hhigh⟩ := Text.exists_getElem?_bytes hc u t (k := 0) c.utf8Size_pos
      rw [Nat.add_zero] at hb
      rw [skipGap_of_some hb, isGap_of_not_isAscii hhigh, List.takeWhile_cons,
        isGap_of_not_isAscii hc]
      rfl

/-- The search for the closing quote as a loop over literals: outside, it has passed the quote. -/
theorem readsLiterals_closingQuote? (bs : List UInt8) :
    ReadsLiterals bs fun quote i => quote.elim (some (i - 1)) (closingQuote? bs · i) := by
  intro i b hb q
  show closingQuote? bs q i = _
  rw [closingQuote?_of_some hb]
  by_cases hmark : Char.ofUInt8 b = q.mark
  · have hslash : Char.ofUInt8 b ≠ '\\' := by
      rw [hmark]
      cases q <;> decide
    rw [if_pos hmark, if_neg hslash, if_pos hmark]
    rfl
  · rw [if_neg hmark, if_neg hmark]
    split <;> rfl

/-- From inside a literal the closing quote is found where the literal is closed, also where the
search skips a byte. -/
theorem closingQuote?_bytes {q : QuoteStyle} {z : Zone} (hz : z.IsIn q) (u t : Text) :
    closingQuote? (Text.bytes (u ++ t)) q (z.readingOffset u.size) =
      (Quoted.close? z t).map fun p => u.size + p.1.size := by
  induction t generalizing z u with
  | nil =>
    refine closingQuote?_of_none ?_
    rw [List.append_nil]
    refine Text.getElem?_bytes_of_size_le ?_
    cases z <;> simp [Zone.readingOffset]
  | cons c t ih =>
    have hstep := (readsLiterals_closingQuote? (Text.bytes (u ++ c :: t))).step hz.ne_code
    rw [hz.quote?_eq] at hstep
    refine hstep.trans ?_
    rw [Quoted.close?]
    rcases hz.next c with hin | ⟨-, rfl, hcode⟩
    · have h := ih hin (u ++ [c])
      rw [← List.append_cons, Text.size_concat] at h
      rw [hin.quote?_eq, Zone.isCode_eq_false hin.ne_code, if_neg Bool.false_ne_true,
        Text.size_concat, Option.elim_some, h, Option.map_map]
      simp only [Function.comp_def, Text.size_cons, Nat.add_assoc]
    · -- The step has passed the quote, which is one byte long.
      rw [hcode, Text.size_concat, (isAscii_mark q).size_eq]
      rfl

/-- The mark of a literal stands at the offset behind a gap when it stands there in the text. -/
theorem bind_ofMark?_bytes (u t : Text) :
    ((Text.bytes (u ++ t))[u.size]?).bind (fun b => QuoteStyle.ofMark? (Char.ofUInt8 b)) =
      t.head?.bind QuoteStyle.ofMark? := by
  cases t with
  | nil =>
    rw [List.append_nil, Text.getElem?_bytes_of_size_le (Nat.le_refl _)]
    rfl
  | cons c t =>
    by_cases hc : Text.IsAscii c
    · rw [hc.getElem?_bytes, Option.bind_some, hc.ofUInt8_toUInt8]
      rfl
    · obtain ⟨b, hb, hhigh⟩ := Text.exists_getElem?_bytes hc u t (k := 0) c.utf8Size_pos
      rw [Nat.add_zero] at hb
      rw [hb, Option.bind_some, ofMark?_of_not_isAscii hhigh]
      exact (ofMark?_of_not_isAscii hc).symm

/-- From between characters the literal is found that the text there starts with. -/
theorem quotedAt_append (u t : Text) :
    quotedAt (u ++ t) u.size = .ok ((Quoted.read? t).map fun l =>
      ⟨l.style, l.value, (u ++ t).size - l.rest.size⟩) := by
  have hgap : t.takeWhile Quoted.isGap ++ t.dropWhile Quoted.isGap = t :=
    List.takeWhile_append_dropWhile
  unfold quotedAt Quoted.read?
  dsimp only
  rw [skipGap_bytes]
  generalize t.takeWhile Quoted.isGap = g at hgap
  generalize t.dropWhile Quoted.isGap = r at hgap
  subst hgap
  rw [← Text.size_append, ← List.append_assoc, bind_ofMark?_bytes]
  cases r with
  | nil => rfl
  | cons c r =>
    rw [List.head?_cons, Option.bind_some]
    dsimp only
    cases hq : QuoteStyle.ofMark? c with
    | none => rfl
    | some q =>
      obtain rfl := QuoteStyle.ofMark?_eq_some_iff.1 hq
      have hmark : q.mark.utf8Size = 1 := (isAscii_mark q).size_eq
      have hstart : (u ++ g ++ [q.mark]).size = (u ++ g).size + 1 := by
        rw [Text.size_concat, hmark]
      have hfound := closingQuote?_bytes (z := .literal q) (.inl rfl) (u ++ g ++ [q.mark]) r
      dsimp only [Zone.readingOffset] at hfound ⊢
      rw [hstart, ← List.append_cons] at hfound
      rw [hfound]
      cases hclose : Quoted.close? (.literal q) r with
      | none => rfl
      | some p =>
        obtain ⟨rfl, -⟩ := Quoted.leaves_of_close? (.inl rfl) hclose
        have hslice := Text.slice_append (u ++ g ++ [q.mark]) p.1 (q.mark :: p.2)
        rw [hstart, ← List.append_cons] at hslice
        have hstop : Text.size (u ++ g ++ q.mark :: (p.1 ++ q.mark :: p.2)) - p.2.size =
            (u ++ g).size + 1 + p.1.size + 1 := by
          simp only [Text.size_append, Text.size_cons, hmark]
          omega
        dsimp only [Option.map_some]
        rw [hslice, hstop]
        rfl

/-- At an offset inside a character or past the end no literal is found. -/
theorem quotedAt_of_dropBytes? {t : Text} {start : Nat} (h : Text.dropBytes? start t = none) :
    quotedAt t start = .ok none := by
  have hhigh := Text.not_isAscii_of_dropBytes? h
  rw [List.head?_drop] at hhigh
  unfold quotedAt
  cases hb : (Text.bytes t)[start]? with
  | none =>
    dsimp only
    rw [skipGap_of_none hb, hb]
    rfl
  | some b =>
    have hb' := hhigh b hb
    dsimp only
    rw [skipGap_of_some hb, isGap_of_not_isAscii hb', if_neg Bool.false_ne_true, hb,
      Option.bind_some, ofMark?_of_not_isAscii hb']

/-- At every offset the literal is found that the library reads there. -/
theorem quotedAt_eq (t : Text) (start : Nat) :
    quotedAt t start =
      .ok ((Quoted.readAt? t start).map fun p => ⟨p.1.style, p.1.value, p.2⟩) := by
  unfold Quoted.readAt?
  cases hdrop : Text.dropBytes? start t with
  | none => exact quotedAt_of_dropBytes? hdrop
  | some r =>
    obtain ⟨u, rfl, rfl⟩ := Text.dropBytes?_eq_some_iff.1 hdrop
    rw [quotedAt_append, Option.bind_eq_bind, Option.bind_some]
    cases Quoted.read? r <;> rfl

end GemDeps.Checked
