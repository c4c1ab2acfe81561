import GemDeps.Proofs.ByteCuts
import GemDeps.Proofs.WrittenArguments

/-!
# Strings are opaque

A string is written character by character and scanned byte by byte, and each scanner has its own
way over a backslash. Whatever the string, a scanner that reaches it in plain code goes on behind it
in plain code and in the state in which it came, so it sees nothing of what the string holds
(`IsLiteral.isOpaque`). Hence the literal ends with the string, and where it stands, the style, the
string and what follows are told by the text (`isOpaque_wrap`).
-/

namespace GemDeps

/-! ## Scans of bytes -/

namespace Scan

variable {σ ρ : Type} (visit : σ → Nat → Char → ρ ⊕ σ)

/-- The bytes of a text that leaves a zone lead a scan from there to behind the text, also where the
scan skips a byte; it visits none of them. -/
theorem bytes_of_leaves {z : Zone} {v : Text} (hv : z.Leaves v) (u t : Text) (s : σ) :
    bytes visit (Text.bytes (u ++ (v ++ t))) z.quote? s (z.readingOffset (Text.size u)) =
      bytes visit (Text.bytes (u ++ (v ++ t))) none s (Text.size u + Text.size v) := by
  induction v generalizing z u with
  | nil =>
    obtain rfl : z = .code := hv
    rfl
  | cons c v ih =>
    obtain ⟨hz, hv⟩ := hv
    have hnext := ih hv (u ++ [c])
    rw [← List.append_cons] at hnext
    refine ((readsLiterals_bytes visit _ s).step hz).trans (hnext.trans ?_)
    rw [Text.size_concat, Text.size_cons, Nat.add_assoc, List.cons_append]

/-- A scan that stands outside quotes in front of a literal comes to stand outside quotes behind it,
in the same state. -/
theorem bytes_literal {l : Text} (hl : IsLiteral l) (t u : Text) (s : σ) :
    bytes visit (Text.bytes (t ++ (l ++ u))) none s (Text.size t) =
      bytes visit (Text.bytes (t ++ (l ++ u))) none s (Text.size t + Text.size l) := by
  obtain ⟨q, v, rfl, hv⟩ := hl
  have hmark := isAscii_mark q
  have hb := hmark.getElem?_bytes t (v ++ u)
  have hinside := bytes_of_leaves visit hv (t ++ [q.mark]) u s
  rw [← List.append_cons, Text.size_concat, hmark.size_eq] at hinside
  rw [List.cons_append, bytes_of_code hb, hmark.ofUInt8_toUInt8, QuoteStyle.ofMark?_mark]
  refine hinside.trans ?_
  rw [Text.size_cons, hmark.size_eq, Nat.add_assoc]

end Scan

/-! ## Opaque texts -/

/-- A text in which no scanner sees a comment, a comma, a bracket or an arrow when it reaches it
outside quotes: it goes on behind the text outside quotes, with as many brackets open as before. -/
structure IsOpaque (w : Text) : Prop where
  /-- A loop over the bytes that stands in front of the text gets behind it in the same state,
  whatever it looks for. -/
  bytes {σ ρ : Type} (visit : σ → Nat → Char → ρ ⊕ σ) (state : σ) (t u : Text) :
    Scan.bytes visit (Text.bytes (t ++ (w ++ u))) none state (Text.size t) =
      Scan.bytes visit (Text.bytes (t ++ (w ++ u))) none state (Text.size t + Text.size w)
  comment (u : Text) : splitComment .code (w ++ u) =
    (w ++ (splitComment .code u).1, (splitComment .code u).2)
  paren (d : Nat) (u : Text) : beforeClosingParen? .code d (w ++ u) =
    (beforeClosingParen? .code d u).map (w ++ ·)
  comma (d : Nat) (u : Text) : ∃ p ps, splitCommas .code d u = p :: ps ∧
    splitCommas .code d (w ++ u) = (w ++ p) :: ps
  arrow (u : Text) : splitArrow? .code (w ++ u) =
    (splitArrow? .code u).map fun p => (w ++ p.1, p.2)
  list (d : Nat) (u : Text) : splitList? .code d (w ++ u) =
    (splitList? .code d u).map fun p => (w ++ p.1, p.2)

theorem IsLiteral.isOpaque {l : Text} (hl : IsLiteral l) : IsOpaque l where
  bytes visit state t u := Scan.bytes_literal visit hl t u state
  comment u := splitComment_literal hl u
  paren d u := beforeClosingParen?_literal hl d u
  comma d u := by
    obtain ⟨p, ps, hps⟩ := List.exists_cons_of_ne_nil (splitCommas_ne_nil .code d u)
    exact ⟨p, ps, hps, by rw [splitCommas_literal hl, hps, foldr_consFirst]⟩
  arrow u := hl.isItem.arrowless u
  list d u := splitList?_literal hl d u

/-! ## Wrapped strings -/

namespace QuoteStyle

/-- A string is told by its escaped form. -/
theorem escape_injective (q : QuoteStyle) : Function.Injective q.escape := by
  intro s s' h
  induction s generalizing s' with
  | nil =>
    cases s' with
    | nil => rfl
    | cons d s' =>
      rw [escape, escape] at h
      split at h <;> cases h
  | cons c s ih =>
    cases s' with
    | nil =>
      rw [escape, escape] at h
      split at h <;> cases h
    | cons d s' =>
      rw [escape, escape] at h
      -- Only a character that needs a backslash is written as one at the start.
      split at h
      · split at h
        · obtain ⟨rfl, htail⟩ := List.cons.inj (List.cons.inj h).2
          rw [ih htail]
        · rename_i hd
          obtain ⟨rfl, -⟩ := List.cons.inj h
          simp at hd
      · rename_i hc
        split at h
        · obtain ⟨rfl, -⟩ := List.cons.inj h
          simp at hc
        · obtain ⟨rfl, htail⟩ := List.cons.inj h
          rw [ih htail]

theorem read?_wrap_append (q : QuoteStyle) (s u : Text) :
    Quoted.read? (q.wrap s ++ u) = some ⟨q, q.escape s, u⟩ := by
  have hread := Quoted.read?_literal (leaves_escape q s) u
  rwa [show q.wrap s ++ u = q.mark :: (q.escape s ++ q.mark :: u) by simp [wrap]]

/-- Style, string and rest are told by a text that starts with a wrapped string. -/
theorem wrap_append_eq_iff {q q' : QuoteStyle} {s s' u u' : Text} :
    q.wrap s ++ u = q'.wrap s' ++ u' ↔ q = q' ∧ s = s' ∧ u = u' := by
  constructor
  · intro h
    have hread := read?_wrap_append q s u
    rw [h, read?_wrap_append, Option.some.injEq, Quoted.mk.injEq] at hread
    obtain ⟨rfl, hs, rfl⟩ := hread
    exact ⟨rfl, (escape_injective _ hs).symm, rfl⟩
  · rintro ⟨rfl, rfl, rfl⟩
    rfl

end QuoteStyle

/-- Every string is opaque between quotes, in front of any text: the literal that starts there has
the quotes around the string and ends where the string was written to end, on its own the string is
read as a string, and every scanner goes over it. So no string leaves the literal it is written
into: another style, string or rest makes another text. -/
theorem isOpaque_wrap (q : QuoteStyle) (s : Text) :
    IsOpaque (q.wrap s) ∧ Value.read (q.wrap s) = .str (q.escape s) ∧
      ∀ u, Quoted.readAt? (q.wrap s ++ u) 0 = some (⟨q, q.escape s, u⟩, Text.size (q.wrap s)) ∧
        Checked.quotedAt (q.wrap s ++ u) 0 = .ok (some ⟨q, q.escape s, Text.size (q.wrap s)⟩) ∧
        ∀ q' s' u', q.wrap s ++ u = q'.wrap s' ++ u' ↔ q = q' ∧ s = s' ∧ u = u' := by
  refine ⟨(isLiteral_wrap q s).isOpaque, Value.read_wrap_escape q s, fun u => ?_⟩
  have hread : Quoted.readAt? (q.wrap s ++ u) 0 =
      some (⟨q, q.escape s, u⟩, Text.size (q.wrap s)) := by
    rw [Quoted.readAt?, Text.dropBytes?, Option.bind_eq_bind, Option.bind_some,
      QuoteStyle.read?_wrap_append, Option.bind_eq_bind, Option.bind_some, Text.size_append,
      Nat.add_sub_cancel]
    rfl
  refine ⟨hread, ?_, fun q' s' u' => QuoteStyle.wrap_append_eq_iff⟩
  rw [Checked.quotedAt_eq, hread]
  rfl

end GemDeps
