import GemDeps.Code.Arguments
import GemDeps.Code.Comment
import GemDeps.Proofs.Arguments
import GemDeps.Proofs.ByteSlices

/-!
# Scanning bytes

The scanners of a line go over its bytes by their index. In a literal a backslash makes them skip
one byte more, whichever it is, so they can come to stand inside a character or past the end.
`Scan.bytes` is their common loop and `Scan.text` the same over characters. The step over one
character of a literal is the same for every loop that skips in this way (`ReadsLiterals.step`).
That the two scans agree is `Scan.bytes_eq_text`, by induction on the text; what each scanner finds
is then what the library finds in the text.
-/

namespace GemDeps

/-- Where the bytes are read on in a zone that begins at offset `n`: after a backslash one byte
further. -/
def Zone.readingOffset (z : Zone) (n : Nat) : Nat :=
  match z with
  | .escape _ => n + 1
  | _ => n

/-- The quotes in which a zone lies. -/
def Zone.quote? : Zone → Option QuoteStyle
  | .code => none
  | .literal q | .escape q => some q

theorem Zone.IsIn.quote?_eq {q : QuoteStyle} {z : Zone} (hz : z.IsIn q) : z.quote? = some q := by
  rcases hz with rfl | rfl <;> rfl

namespace Scan

variable {σ ρ : Type}

/-- Goes over the bytes from index `i` on, in quotes or outside. Outside, `visit` is shown each byte
that is no quote, and ends the scan with a result or goes on in another state. -/
def bytes (visit : σ → Nat → Char → ρ ⊕ σ) (bs : List UInt8) (quote : Option QuoteStyle) (s : σ)
    (i : Nat) : ρ ⊕ σ :=
  match _h : bs[i]? with
  | none => .inr s
  | some b =>
    let c := Char.ofUInt8 b
    match quote with
    | some q =>
      if c = '\\' then bytes visit bs quote s (i + 2)
      else bytes visit bs (if c = q.mark then none else quote) s (i + 1)
    | none =>
      match QuoteStyle.ofMark? c with
      | some q => bytes visit bs (some q) s (i + 1)
      | none =>
        match visit s i c with
        | .inl r => .inl r
        | .inr s' => bytes visit bs none s' (i + 1)
termination_by bs.length - i
decreasing_by
  all_goals
    obtain ⟨hi, -⟩ := List.getElem?_eq_some_iff.1 _h
    omega

/-- The same over the characters of a text that begins at offset `i`. -/
def text (visit : σ → Nat → Char → ρ ⊕ σ) (z : Zone) (s : σ) (i : Nat) : Text → ρ ⊕ σ
  | [] => .inr s
  | c :: t =>
    if z.isCode && (QuoteStyle.ofMark? c).isNone then
      match visit s i c with
      | .inl r => .inl r
      | .inr s' => text visit .code s' (i + c.utf8Size) t
    else text visit (z.next c) s (i + c.utf8Size) t

section Bytes

variable {visit : σ → Nat → Char → ρ ⊕ σ} {bs : List UInt8} {s : σ} {i : Nat} {b : UInt8}

theorem bytes_of_none (h : bs[i]? = none) (quote : Option QuoteStyle) :
    bytes visit bs quote s i = .inr s := by
  unfold bytes
  split
  · rfl
  · simp_all

theorem bytes_of_literal (h : bs[i]? = some b) (q : QuoteStyle) :
    bytes visit bs (some q) s i =
      if Char.ofUInt8 b = '\\' then bytes visit bs (some q) s (i + 2)
      else bytes visit bs (if Char.ofUInt8 b = q.mark then none else some q) s (i + 1) := by
  conv => lhs; unfold bytes
  split
  · simp_all
  · simp_all

theorem bytes_of_code (h : bs[i]? = some b) :
    bytes visit bs none s i =
      match QuoteStyle.ofMark? (Char.ofUInt8 b) with
      | some q => bytes visit bs (some q) s (i + 1)
      | none =>
        match visit s i (Char.ofUInt8 b) with
        | .inl r => .inl r
        | .inr s' => bytes visit bs none s' (i + 1) := by
  conv => lhs; unfold bytes
  split
  · simp_all
  · simp_all

end Bytes

/-! ## Bytes and characters -/

theorem isAscii_mark (q : QuoteStyle) : Text.IsAscii q.mark := by cases q <;> decide

theorem ofMark?_of_not_isAscii {c : Char} (h : ¬ Text.IsAscii c) : QuoteStyle.ofMark? c = none := by
  cases hq : QuoteStyle.ofMark? c with
  | none => rfl
  | some q =>
    rw [QuoteStyle.ofMark?_eq_some_iff] at hq
    exact absurd hq (Text.ne_of_not_isAscii h (isAscii_mark q))

/-- A scan that shows no interest in characters that are not ASCII. -/
def SkipsNonAscii (visit : σ → Nat → Char → ρ ⊕ σ) : Prop :=
  ∀ s i c, ¬ Text.IsAscii c → visit s i c = .inr s

variable {visit : σ → Nat → Char → ρ ⊕ σ}

/-- A loop over bytes, in quotes or outside, that goes through a literal as the scanners do: from a
backslash one byte further than from other bytes, and from the quote of the literal to outside. -/
def ReadsLiterals {α : Type} (bs : List UInt8) (read : Option QuoteStyle → Nat → α) : Prop :=
  ∀ ⦃i b⦄, bs[i]? = some b → ∀ q, read (some q) i =
    if Char.ofUInt8 b = '\\' then read (some q) (i + 2)
    else read (if Char.ofUInt8 b = q.mark then none else some q) (i + 1)

theorem readsLiterals_bytes (visit : σ → Nat → Char → ρ ⊕ σ) (bs : List UInt8) (s : σ) :
    ReadsLiterals bs fun quote i => bytes visit bs quote s i :=
  fun _ _ h q => bytes_of_literal h q

/-- The step over one character inside a literal: the loop gets from the zone in front of it to the
zone behind it, also where it skips the first byte of the character. -/
theorem ReadsLiterals.step {α : Type} {read : Option QuoteStyle → Nat → α} {u t : Text} {c : Char}
    (h : ReadsLiterals (Text.bytes (u ++ c :: t)) read) {z : Zone} (hz : z ≠ .code) :
    read z.quote? (z.readingOffset (Text.size u)) =
      read (z.next c).quote? ((z.next c).readingOffset (Text.size (u ++ [c]))) := by
  rw [Text.size_concat]
  by_cases hc : Text.IsAscii c
  · rw [hc.size_eq]
    cases z with
    | code => exact absurd rfl hz
    | literal q =>
      show read (some q) (Text.size u) = _
      rw [h (hc.getElem?_bytes u t), hc.ofUInt8_toUInt8, Zone.next]
      by_cases hslash : c = '\\'
      · rw [if_pos hslash, if_pos hslash]
        rfl
      · rw [if_neg hslash, if_neg hslash]
        by_cases hmark : c = q.mark
        · rw [if_pos hmark, if_pos hmark]
          rfl
        · rw [if_neg hmark, if_neg hmark]
          rfl
    | escape q => rfl
  · have hskip : ∀ q k, k ≤ c.utf8Size →
        read (some q) (Text.size u + k) = read (some q) (Text.size u + c.utf8Size) := by
      intro q k hk
      refine Text.read_of_not_isAscii hc u t (fun i b hb hhigh => ?_) hk
      rw [h hb, if_neg (Text.ne_of_not_isAscii hhigh (by decide)),
        if_neg (Text.ne_of_not_isAscii hhigh (isAscii_mark q))]
    cases z with
    | code => exact absurd rfl hz
    | literal q =>
      rw [Zone.next, if_neg (Text.ne_of_not_isAscii hc (by decide)),
        if_neg (Text.ne_of_not_isAscii hc (isAscii_mark q))]
      exact hskip q 0 (Nat.zero_le _)
    | escape q =>
      -- The byte that was skipped is the first one of this character.
      exact hskip q 1 c.utf8Size_pos

/-- The scan over the bytes of a text does what the scan over its characters does, also where it
skips a byte. -/
theorem bytes_eq_text (hvisit : SkipsNonAscii visit) (u t : Text) (z : Zone) (s : σ) :
    bytes visit (Text.bytes (u ++ t)) z.quote? s (z.readingOffset (Text.size u)) =
      text visit z s (Text.size u) t := by
  induction t generalizing u z s with
  | nil =>
    have hend : (Text.bytes (u ++ []))[z.readingOffset (Text.size u)]? = none := by
      rw [List.append_nil]
      refine Text.getElem?_bytes_of_size_le ?_
      cases z <;> simp [Zone.readingOffset]
    rw [bytes_of_none hend]
    rfl
  | cons c t ih =>
    have hnext : ∀ z' s', bytes visit (Text.bytes (u ++ c :: t)) z'.quote? s'
        (z'.readingOffset (Text.size u + c.utf8Size)) =
          text visit z' s' (Text.size u + c.utf8Size) t := by
      intro z' s'
      have h := ih (u ++ [c]) z' s'
      rwa [← List.append_cons, Text.size_concat] at h
    by_cases hz : z = .code
    · subst hz
      show bytes visit _ none s (Text.size u) = _
      by_cases hc : Text.IsAscii c
      · have hsize := hc.size_eq
        rw [hsize] at hnext
        rw [bytes_of_code (hc.getElem?_bytes u t), hc.ofUInt8_toUInt8, text, hsize]
        cases hq : QuoteStyle.ofMark? c with
        | some q =>
          have hopen : Zone.next .code c = .literal q := by rw [Zone.next, hq]
          rw [hopen]
          exact hnext (.literal q) s
        | none =>
          cases hv : visit s (Text.size u) c with
          | inl r => rfl
          | inr s' => exact hnext .code s'
      · have hskip : bytes visit (Text.bytes (u ++ c :: t)) none s (Text.size u + 0) =
            bytes visit (Text.bytes (u ++ c :: t)) none s (Text.size u + c.utf8Size) := by
          refine Text.read_of_not_isAscii hc u t (fun i b hb hhigh => ?_) (Nat.zero_le _)
          rw [bytes_of_code hb, ofMark?_of_not_isAscii hhigh]
          dsimp only
          rw [hvisit _ _ _ hhigh]
        rw [text, ofMark?_of_not_isAscii hc, hvisit _ _ _ hc]
        exact hskip.trans (hnext .code s)
    · rw [text, if_neg (by rw [Zone.isCode_eq_false hz]; exact Bool.false_ne_true),
        (readsLiterals_bytes visit _ s).step hz, Text.size_concat]
      exact hnext (z.next c) s

/-- The scan of a whole text. -/
theorem bytes_eq_text_code (hvisit : SkipsNonAscii visit) (t : Text) (s : σ) :
    bytes visit (Text.bytes t) none s 0 = text visit .code s 0 t :=
  bytes_eq_text hvisit [] t .code s

/-- Is a character in this zone no part of the code, or a quote that opens a literal? -/
def IsQuoted (z : Zone) (c : Char) : Prop := z ≠ .code ∨ QuoteStyle.ofMark? c ≠ none

theorem code_or_isQuoted (z : Zone) (c : Char) :
    (z = .code ∧ QuoteStyle.ofMark? c = none) ∨ IsQuoted z c := by
  by_cases hz : z = .code
  · by_cases hc : QuoteStyle.ofMark? c = none
    · exact .inl ⟨hz, hc⟩
    · exact .inr (.inr hc)
  · exact .inr (.inl hz)

section Cons

variable {z : Zone} {c : Char}

theorem text_cons_of_code {visit : σ → Nat → Char → ρ ⊕ σ} (hc : QuoteStyle.ofMark? c = none)
    (s : σ) (i : Nat) (t : Text) :
    text visit .code s i (c :: t) =
      match visit s i c with
      | .inl r => .inl r
      | .inr s' => text visit .code s' (i + c.utf8Size) t := by
  rw [text, hc]
  rfl

theorem next_code (hc : QuoteStyle.ofMark? c = none) : Zone.next .code c = .code := by
  rw [Zone.next, hc]

theorem text_cons_of_isQuoted {visit : σ → Nat → Char → ρ ⊕ σ} (h : IsQuoted z c) (s : σ) (i : Nat)
    (t : Text) : text visit z s i (c :: t) = text visit (z.next c) s (i + c.utf8Size) t := by
  rw [text, if_neg]
  cases z <;> simp_all [IsQuoted, Zone.isCode, Option.ne_none_iff_isSome]

/-- A character is quoted inside a literal, or as the quote that opens one. -/
theorem IsQuoted.isCode_or (h : IsQuoted z c) : z.isCode = false ∨ ∃ q, c = QuoteStyle.mark q := by
  rcases h with hz | hc
  · refine .inl ?_
    cases z with
    | code => exact absurd rfl hz
    | literal q => rfl
    | escape q => rfl
  · obtain ⟨q, hq⟩ := Option.ne_none_iff_exists'.1 hc
    exact .inr ⟨q, QuoteStyle.ofMark?_eq_some_iff.1 hq⟩

/-- What is quoted is no mark of the code. -/
theorem IsQuoted.isCode_and (h : IsQuoted z c) {m : Char} (hm : QuoteStyle.ofMark? m = none) :
    (z.isCode && c == m) = false := by
  rcases h.isCode_or with hz | ⟨q, rfl⟩
  · rw [hz, Bool.false_and]
  · have hne : q.mark ≠ m := fun he => by
      rw [← he, QuoteStyle.ofMark?_mark] at hm
      cases hm
    rw [beq_eq_false_iff_ne.2 hne, Bool.and_false]

end Cons

end Scan

namespace Checked

open Scan

/-! ## Comments -/

/-- Ends at a `#`. -/
def visitComment (_ : Unit) (i : Nat) (c : Char) : Nat ⊕ Unit :=
  if c = '#' then .inl i else .inr ()

/-- The index of the `#` that starts the comment. -/
def commentStart? (t : Text) : Option Nat :=
  (Scan.bytes visitComment (Text.bytes t) none () 0).getLeft?

theorem skipsNonAscii_visitComment : SkipsNonAscii visitComment := fun _ _ _ hc =>
  if_neg (Text.ne_of_not_isAscii hc (by decide))

theorem text_visitComment (z : Zone) (i : Nat) (t : Text) :
    (Scan.text visitComment z () i t).getLeft? =
      if (splitComment z t).2.isEmpty then none else some (i + (splitComment z t).1.size) := by
  induction t generalizing z i with
  | nil => rfl
  | cons c t ih =>
    rcases code_or_isQuoted z c with ⟨rfl, hc⟩ | hquoted
    · rw [text_cons_of_code hc, splitComment, next_code hc]
      by_cases hhash : c = '#'
      · subst hhash
        rfl
      · have hne : (Zone.isCode .code && c == '#') = false := beq_eq_false_iff_ne.2 hhash
        rw [visitComment, if_neg hhash, hne, if_neg Bool.false_ne_true]
        dsimp only
        rw [ih, Text.size_cons, Nat.add_assoc]
    · rw [text_cons_of_isQuoted hquoted, splitComment, hquoted.isCode_and rfl,
        if_neg Bool.false_ne_true, ih]
      dsimp only
      rw [Text.size_cons, Nat.add_assoc]

theorem commentStart?_eq (t : Text) : commentStart? t = GemDeps.commentStart? t := by
  unfold commentStart? GemDeps.commentStart?
  rw [bytes_eq_text_code skipsNonAscii_visitComment, text_visitComment, Nat.zero_add]
  rfl

/-! ## Parentheses -/

/-- Counts the open brackets; ends at the parenthesis that closes none of them, or at a comment. -/
def visitParen (d i : Nat) (c : Char) : Option Nat ⊕ Nat :=
  if opensBracket c then .inr (d + 1)
  else if c = ')' ∧ d = 0 then .inl (some i)
  else if closesBracket c then .inr (d - 1)
  else if c = '#' then .inl none
  else .inr d

/-- The index of the first `)` that closes nothing opened inside. -/
def closingParen? (t : Text) : Option Nat :=
  (Scan.bytes visitParen (Text.bytes t) none 0 0).elim id fun _ => none

/-- A character that is not ASCII is no bracket. -/
theorem bracket_of_not_isAscii {c : Char} (hc : ¬ Text.IsAscii c) :
    opensBracket c = false ∧ closesBracket c = false := by
  have hne := fun m => Text.beq_eq_false_of_not_isAscii (d := m) hc
  unfold opensBracket closesBracket
  rw [hne '(' (by decide), hne '[' (by decide), hne '{' (by decide), hne ')' (by decide),
    hne ']' (by decide), hne '}' (by decide)]
  exact ⟨rfl, rfl⟩

/-- Before a `)` or a `#` can end the scan, it is counted as a bracket or not. -/
theorem visitParen_eq (d i : Nat) (c : Char) :
    visitParen d i c =
      if c = ')' ∧ d = 0 then .inl (some i)
      else if c = '#' then .inl none
      else .inr (bracketDepth .code d c) := by
  unfold visitParen bracketDepth
  rw [show Zone.isCode .code = true from rfl, if_pos rfl]
  by_cases hopens : opensBracket c = true
  · have hparen : c ≠ ')' := by
      rintro rfl
      exact absurd hopens (by decide)
    have hhash : c ≠ '#' := by
      rintro rfl
      exact absurd hopens (by decide)
    simp [hopens, hparen, hhash]
  · by_cases hcloses : closesBracket c = true
    · have hhash : c ≠ '#' := by
        rintro rfl
        exact absurd hcloses (by decide)
      simp [hopens, hcloses, hhash]
    · simp [hopens, hcloses]

theorem skipsNonAscii_visitParen : SkipsNonAscii visitParen := fun d i c hc => by
  obtain ⟨hopens, hcloses⟩ := bracket_of_not_isAscii hc
  rw [visitParen_eq, if_neg fun h => Text.ne_of_not_isAscii hc (by decide) h.1,
    if_neg (Text.ne_of_not_isAscii hc (by decide)), bracketDepth, hopens, hcloses]
  rfl

theorem bracketDepth_of_isQuoted {z : Zone} {c : Char} (h : IsQuoted z c) (d : Nat) :
    bracketDepth z d c = d := by
  rcases h.isCode_or with hz | ⟨q, rfl⟩
  · rw [bracketDepth, hz]
    rfl
  · cases z <;> cases q <;> rfl

theorem text_visitParen (z : Zone) (d i : Nat) (t : Text) :
    (Scan.text visitParen z d i t).elim id (fun _ => none) =
      (beforeClosingParen? z d t).map fun u => i + u.size := by
  induction t generalizing z d i with
  | nil => rfl
  | cons c t ih =>
    have hrest : ∀ z' d', (Scan.text visitParen z' d' (i + c.utf8Size) t).elim id (fun _ => none) =
        ((beforeClosingParen? z' d' t).map (c :: ·)).map fun u => i + Text.size u := by
      intro z' d'
      rw [ih, Option.map_map]
      simp only [Function.comp_def, Text.size_cons, Nat.add_assoc]
    rcases code_or_isQuoted z c with ⟨rfl, hc⟩ | hquoted
    · rw [text_cons_of_code hc, visitParen_eq, beforeClosingParen?, next_code hc]
      by_cases hparen : c = ')' ∧ d = 0
      · obtain ⟨rfl, rfl⟩ := hparen
        rfl
      by_cases hhash : c = '#'
      · subst hhash
        rfl
      have hparen' : (Zone.isCode .code && c == ')' && d == 0) = false := by
        simpa [Zone.isCode] using hparen
      have hhash' : (Zone.isCode .code && c == '#') = false := beq_eq_false_iff_ne.2 hhash
      rw [if_neg hparen, if_neg hhash, hparen', hhash']
      exact hrest _ _
    · rw [text_cons_of_isQuoted hquoted, beforeClosingParen?, hquoted.isCode_and rfl,
        hquoted.isCode_and rfl, bracketDepth_of_isQuoted hquoted]
      exact hrest _ _

theorem closingParen?_eq (t : Text) :
    closingParen? t = (beforeClosingParen? .code 0 t).map Text.size := by
  unfold closingParen?
  rw [bytes_eq_text_code skipsNonAscii_visitParen, text_visitParen]
  simp only [Nat.zero_add]

/-! ## Arrows -/

/-- Ends at an `=` that a `>` follows. -/
def visitArrow (bs : List UInt8) (_ : Unit) (i : Nat) (c : Char) : Nat ⊕ Unit :=
  if c = '=' ∧ (bs[i + 1]?).map Char.ofUInt8 = some '>' then .inl i else .inr ()

/-- The index of the first `=>` outside quotes. -/
def findArrow? (t : Text) : Option Nat :=
  (Scan.bytes (visitArrow (Text.bytes t)) (Text.bytes t) none () 0).getLeft?

theorem skipsNonAscii_visitArrow (bs : List UInt8) : SkipsNonAscii (visitArrow bs) :=
  fun _ _ _ hc => if_neg fun h => Text.ne_of_not_isAscii hc (by decide) h.1

theorem text_visitArrow (z : Zone) (u t : Text) :
    (Scan.text (visitArrow (Text.bytes (u ++ t))) z () u.size t).getLeft? =
      (splitArrow? z t).map fun p => u.size + p.1.size := by
  induction t generalizing z u with
  | nil => rfl
  | cons c t ih =>
    have hrest : ∀ z', (Scan.text (visitArrow (Text.bytes (u ++ c :: t))) z' ()
        (u.size + c.utf8Size) t).getLeft? =
          ((splitArrow? z' t).map fun p => (c :: p.1, p.2)).map fun p =>
            u.size + Text.size p.1 := by
      intro z'
      have h := ih z' (u ++ [c])
      rw [← List.append_cons, Text.size_concat] at h
      rw [h, Option.map_map]
      simp only [Function.comp_def, Text.size_cons, Nat.add_assoc]
    rcases code_or_isQuoted z c with ⟨rfl, hc⟩ | hquoted
    · rw [text_cons_of_code hc, splitArrow?, next_code hc, visitArrow]
      by_cases heq : c = '='
      · subst heq
        have hnext := Text.getElem?_bytes_eq_iff (m := '>') (by decide) (u ++ ['=']) t
        rw [← List.append_cons, Text.size_concat] at hnext
        by_cases harrow : t.head? = some '>'
        · rw [if_pos ⟨rfl, hnext.2 harrow⟩, harrow]
          rfl
        · rw [if_neg fun h => harrow (hnext.1 h.2),
            if_neg (by simpa [Zone.isCode] using harrow)]
          exact hrest _
      · rw [if_neg fun h => heq h.1, if_neg (by simp [Zone.isCode, heq])]
        exact hrest _
    · rw [text_cons_of_isQuoted hquoted, splitArrow?, hquoted.isCode_and rfl]
      exact hrest _

theorem findArrow?_eq (t : Text) : findArrow? t = (splitArrow? .code t).map (·.1.size) := by
  have h := text_visitArrow .code [] t
  unfold findArrow?
  rw [bytes_eq_text_code (skipsNonAscii_visitArrow _)]
  simpa only [List.nil_append, Text.size_nil, Nat.zero_add] using h

/-! ## Lists -/

/-- Counts the open square brackets; ends behind the one that leaves none open. -/
def visitSquare (d i : Nat) (c : Char) : Nat ⊕ Nat :=
  if c = '[' then .inr (d + 1)
  else if c = ']' then if d - 1 = 0 then .inl (i + 1) else .inr (d - 1)
  else .inr d

/-- The index behind the `]` that closes the list at the start of a text. -/
def listEnd? (t : Text) : Option Nat :=
  (Scan.bytes visitSquare (Text.bytes t) none 0 0).getLeft?

theorem skipsNonAscii_visitSquare : SkipsNonAscii visitSquare := fun d i c hc => by
  rw [visitSquare, if_neg (Text.ne_of_not_isAscii hc (by decide)),
    if_neg (Text.ne_of_not_isAscii hc (by decide))]

theorem squareDepth_of_isQuoted {z : Zone} {c : Char} (h : IsQuoted z c) (d : Nat) :
    squareDepth z d c = d := by
  rcases h.isCode_or with hz | ⟨q, rfl⟩
  · rw [squareDepth, hz]
    rfl
  · cases z <;> cases q <;> rfl

theorem text_visitSquare (z : Zone) (d i : Nat) (t : Text) :
    (Scan.text visitSquare z d i t).getLeft? =
      (splitList? z d t).map fun p => i + p.1.size := by
  induction t generalizing z d i with
  | nil => rfl
  | cons c t ih =>
    have hrest : ∀ z' d', (Scan.text visitSquare z' d' (i + c.utf8Size) t).getLeft? =
        ((splitList? z' d' t).map fun p => (c :: p.1, p.2)).map fun p => i + Text.size p.1 := by
      intro z' d'
      rw [ih, Option.map_map]
      simp only [Function.comp_def, Text.size_cons, Nat.add_assoc]
    rcases code_or_isQuoted z c with ⟨rfl, hc⟩ | hquoted
    · rw [text_cons_of_code hc, splitList?, next_code hc]
      by_cases hcloses : c = ']'
      · subst hcloses
        by_cases hd : d ≤ 1
        · have hzero : d - 1 = 0 := by omega
          have hvisit : visitSquare d i ']' = .inl (i + 1) := if_pos hzero
          rw [hvisit, if_pos (by simpa [Zone.isCode] using hd)]
          rfl
        · have hpos : ¬ d - 1 = 0 := by omega
          have hvisit : visitSquare d i ']' = .inr (d - 1) := if_neg hpos
          rw [hvisit, if_neg (by simpa [Zone.isCode] using hd)]
          exact hrest _ _
      · rw [if_neg (by simp [Zone.isCode, hcloses])]
        have hvisit : visitSquare d i c = .inr (squareDepth .code d c) := by
          unfold visitSquare squareDepth
          by_cases hopens : c = '['
          · simp [hopens, Zone.isCode]
          · simp [hopens, hcloses, Zone.isCode]
        rw [hvisit]
        exact hrest _ _
    · rw [text_cons_of_isQuoted hquoted, splitList?, hquoted.isCode_and rfl,
        squareDepth_of_isQuoted hquoted]
      exact hrest _ _

theorem listEnd?_eq (t : Text) : listEnd? t = (splitList? .code 0 t).map (·.1.size) := by
  unfold listEnd?
  rw [bytes_eq_text_code skipsNonAscii_visitSquare, text_visitSquare]
  simp only [Nat.zero_add]

end Checked

end GemDeps
