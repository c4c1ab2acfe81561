import GemDeps.Json.Escape
import Mathlib.Data.List.Basic

/-!
# Strings in JSON

What is written for a text between quotes is cut off at the closing quote (`isLexeme_escape`) and
read as the text it was written for (`unescape?_escape`): each character is written so that both
scanners pass over what is written for it and over nothing else.
-/

namespace GemDeps.Json

/-! ## Characters -/

/-- A character is written as itself, unless it has an escape or is a control character. -/
theorem escapeChar_cases (c : Char) :
    (∃ e, shortEscape? c = some e ∧ escapeChar c = ['\\', e]) ∨
      (∃ n < 32, c = Char.ofNat n ∧
        escapeChar c = ['\\', 'u', '0', '0', Text.hexDigit (n / 16), Text.hexDigit (n % 16)]) ∨
      c ≠ '"' ∧ c ≠ '\\' ∧ ¬ c.toNat < 0x20 ∧ escapeChar c = [c] := by
  cases h : shortEscape? c with
  | some e => exact .inl ⟨e, rfl, by rw [escapeChar, h]⟩
  | none =>
    by_cases hcontrol : c.toNat < 0x20
    · refine .inr (.inl ⟨c.toNat, hcontrol, (Char.ofNat_toNat c).symm, ?_⟩)
      rw [escapeChar, h]
      exact if_pos hcontrol
    · refine .inr (.inr ⟨?_, ?_, hcontrol, ?_⟩)
      · rintro rfl
        cases h
      · rintro rfl
        cases h
      · rw [escapeChar, h]
        exact if_neg hcontrol

/-- The letters behind a backslash, with the characters that they stand for. -/
theorem unescapeShort?_of_shortEscape? {c e : Char} (h : shortEscape? c = some e) :
    unescapeShort? e = some c ∧ e ≠ 'u' := by
  unfold shortEscape? at h
  split at h <;> first
    | (cases h; decide)
    | cases h

theorem hex4?_hexDigit {n : Nat} (h : n < 32) :
    Text.hex4? '0' '0' (Text.hexDigit (n / 16)) (Text.hexDigit (n % 16)) = some n := by
  have hall : ∀ m < 32,
      Text.hex4? '0' '0' (Text.hexDigit (m / 16)) (Text.hexDigit (m % 16)) = some m := by
    decide
  exact hall n h

/-- The scanner for the closing quote passes over what is written for a character. -/
theorem splitString?_escapeChar (c : Char) (t : Text) :
    splitString? (escapeChar c ++ t) =
      (splitString? t).map fun p => (escapeChar c ++ p.1, p.2) := by
  rcases escapeChar_cases c with ⟨e, he, hc⟩ | ⟨n, hn, -, hc⟩ | ⟨hquote, hslash, hcontrol, hc⟩
  · obtain ⟨hread, hu⟩ := unescapeShort?_of_shortEscape? he
    rw [hc, List.cons_append, List.singleton_append,
      splitString?.eq_4 e t fun _ _ _ _ _ h => absurd h hu, hread]
    rfl
  · rw [hc]
    simp only [List.cons_append, List.nil_append]
    rw [splitString?.eq_3, hex4?_hexDigit hn]
    rfl
  · rw [hc, List.singleton_append, splitString?.eq_5 c t hquote
      (fun _ _ _ _ _ h => absurd h hslash) fun _ _ h => absurd h hslash, if_neg]
    · rfl
    · simp [hslash, hcontrol]

theorem not_isHalf_of_lt {n : Nat} (h : n < 32) : isHighHalf n = false ∧ isLowHalf n = false := by
  simp only [isHighHalf, isLowHalf, Bool.and_eq_false_iff, decide_eq_false_iff_not]
  omega

/-- What is written for a character is read as that character. -/
theorem unescape?_escapeChar (c : Char) (t : Text) :
    unescape? (escapeChar c ++ t) = (unescape? t).map (c :: ·) := by
  rcases escapeChar_cases c with ⟨e, he, hc⟩ | ⟨n, hn, hcn, hc⟩ | ⟨-, hslash, -, hc⟩
  · obtain ⟨hread, hu⟩ := unescapeShort?_of_shortEscape? he
    rw [hc, List.cons_append, List.singleton_append,
      unescape?.eq_3 e t fun _ _ _ _ _ h => absurd h hu, hread]
    exact Option.map_eq_bind.symm
  · obtain ⟨hhigh, hlow⟩ := not_isHalf_of_lt hn
    rw [hc]
    simp only [List.cons_append, List.nil_append]
    rw [unescape?.eq_2, hex4?_hexDigit hn, Option.bind_eq_bind, Option.bind_some, hhigh, hlow,
      if_neg Bool.false_ne_true, if_neg Bool.false_ne_true, ← hcn]
    exact Option.map_eq_bind.symm
  · rw [hc, List.singleton_append, unescape?.eq_4 c t
      (fun _ _ _ _ _ h => absurd h hslash) (fun _ _ h => absurd h hslash), if_neg hslash]

/-! ## Texts -/

/-- A text as it may stand between the quotes of a string: the closing quote is the first one that
is not part of it. -/
def IsLexeme (s : Text) : Prop := ∀ t, splitString? (s ++ '"' :: t) = some (s, t)

theorem isLexeme_escape (t : Text) : IsLexeme (escape t) := by
  intro u
  induction t with
  | nil => rfl
  | cons c t ih =>
    rw [escape, List.flatMap_cons, List.append_assoc, splitString?_escapeChar, ← escape, ih]
    rfl

theorem unescape?_escape (t : Text) : unescape? (escape t) = some t := by
  induction t with
  | nil => rfl
  | cons c t ih =>
    rw [escape, List.flatMap_cons, unescape?_escapeChar, ← escape, ih]
    rfl

end GemDeps.Json
