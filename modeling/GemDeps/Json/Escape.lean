import GemDeps.Text.Hexadecimal

/-!
# JSON strings

A string is written between double quotes. Quotes, backslashes and control characters inside are
escaped; a character beyond the basic plane may be written as two escaped halves.

* `Json.escape`: a text as written between the quotes.
* `Json.unescape?`: the text that is written, unless half of such a pair stands alone.
* `Json.splitString?`: cuts a text at the quote that closes the string in which it starts.
-/

namespace GemDeps.Json

/-! ## Writing -/

/-- The letters that stand for control characters after a backslash. -/
def shortEscape? (c : Char) : Option Char :=
  match c with
  | '"' => some '"'
  | '\\' => some '\\'
  | '\x08' => some 'b'
  | '\x0c' => some 'f'
  | '\n' => some 'n'
  | '\r' => some 'r'
  | '\t' => some 't'
  | _ => none

/-- A character as written inside a string. -/
def escapeChar (c : Char) : Text :=
  match shortEscape? c with
  | some e => ['\\', e]
  | none =>
    if c.toNat < 0x20 then
      ['\\', 'u', '0', '0', Text.hexDigit (c.toNat / 16), Text.hexDigit (c.toNat % 16)]
    else [c]

/-- A text as written between the quotes of a string. -/
def escape (t : Text) : Text := t.flatMap escapeChar

/-! ## Reading -/

/-- The character that a letter stands for after a backslash. -/
def unescapeShort? (c : Char) : Option Char :=
  match c with
  | '"' => some '"'
  | '\\' => some '\\'
  | '/' => some '/'
  | 'b' => some '\x08'
  | 'f' => some '\x0c'
  | 'n' => some '\n'
  | 'r' => some '\r'
  | 't' => some '\t'
  | _ => none

/-- Is `n` the first half of a pair? -/
def isHighHalf (n : Nat) : Bool := 0xD800 ≤ n && n < 0xDC00

/-- Is `n` the second half of a pair? -/
def isLowHalf (n : Nat) : Bool := 0xDC00 ≤ n && n < 0xE000

/-- The text written between the quotes of a string; `none` when an escape is malformed or half of a
pair stands alone. -/
def unescape? : Text → Option Text
  | [] => some []
  | '\\' :: 'u' :: a :: b :: c :: d :: t => do
    let n ← Text.hex4? a b c d
    if isHighHalf n then
      match t with
      | '\\' :: 'u' :: e :: f :: g :: h :: u =>
        let m ← Text.hex4? e f g h
        if isLowHalf m then
          let r ← unescape? u
          return Char.ofNat (0x10000 + (n - 0xD800) * 0x400 + (m - 0xDC00)) :: r
        else none
      | _ => none
    else if isLowHalf n then none
    else
      let r ← unescape? t
      return Char.ofNat n :: r
  | '\\' :: c :: t => do
    let e ← unescapeShort? c
    let r ← unescape? t
    return e :: r
  | c :: t => if c = '\\' then none else (unescape? t).map (c :: ·)

/-! ## Cutting -/

/-- Cuts a text at the quote that closes the string in which it starts. The quote is dropped. A
control character or a malformed escape is refused. -/
def splitString? : Text → Option (Text × Text)
  | [] => none
  | '"' :: t => some ([], t)
  | '\\' :: 'u' :: a :: b :: c :: d :: t =>
    if (Text.hex4? a b c d).isSome then
      (splitString? t).map fun p => ('\\' :: 'u' :: a :: b :: c :: d :: p.1, p.2)
    else none
  | '\\' :: c :: t =>
    if (unescapeShort? c).isSome then (splitString? t).map fun p => ('\\' :: c :: p.1, p.2)
    else none
  | c :: t =>
    if c = '\\' || c.toNat < 0x20 then none else (splitString? t).map fun p => (c :: p.1, p.2)

theorem length_lt_of_splitString? {t a b : Text} (h : splitString? t = some (a, b)) :
    b.length < t.length := by
  fun_induction splitString? t generalizing a b with
  | case1 => simp at h
  | case2 => simp_all
  | case3 _ _ _ _ _ _ ih =>
    obtain ⟨p, hp, he⟩ := Option.map_eq_some_iff.1 h
    cases he
    have := ih hp
    simp only [List.length_cons]; omega
  | case4 => simp at h
  | case5 _ _ _ _ ih =>
    obtain ⟨p, hp, he⟩ := Option.map_eq_some_iff.1 h
    cases he
    have := ih hp
    simp only [List.length_cons]; omega
  | case6 => simp at h
  | case7 => simp at h
  | case8 _ _ _ _ _ _ ih =>
    obtain ⟨p, hp, he⟩ := Option.map_eq_some_iff.1 h
    cases he
    have := ih hp
    simp only [List.length_cons]; omega

end GemDeps.Json
