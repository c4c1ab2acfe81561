import GemDeps.Text.Hexadecimal

/-!
# TOML strings

A string stands between double quotes, with escapes, or between single quotes, as it is. Between
three quotes of either style it may go on over several lines; a line break right after the opening
quotes does not count, and a backslash at the end of a line takes the break and all blanks after it
away.

* `Toml.quoted?`: the string at the start of a text, and the rest.
-/

namespace GemDeps.Toml

/-! ## Characters -/

/-- May a character stand as itself on a line? -/
def isPlain (c : Char) : Bool := c = '\t' || (0x20 ≤ c.toNat && c.toNat ≠ 0x7F)

/-- The blanks of a line. -/
def isBlank (c : Char) : Bool := c = ' ' || c = '\t'

/-- The text after a line break. -/
def newline? : Text → Option Text
  | '\n' :: t => some t
  | '\r' :: '\n' :: t => some t
  | _ => none

/-- The character that hexadecimal digits number. -/
def numbered? (digits : List Char) : Option Char := do
  let n ← digits.foldlM (fun n c => (Text.hexValue? c).map (16 * n + ·)) 0
  if n < 0xD800 || (0xE000 ≤ n && n < 0x110000) then some (Char.ofNat n) else none

/-- The character that a letter stands for after a backslash. -/
def escaped? : Char → Option Char
  | 'b' => some '\x08'
  | 't' => some '\t'
  | 'n' => some '\n'
  | 'f' => some '\x0c'
  | 'r' => some '\r'
  | 'e' => some '\x1b'
  | '"' => some '"'
  | '\\' => some '\\'
  | _ => none

/-- A character in front of what has been read. -/
def push (c : Char) (r : Option (Text × Text)) : Option (Text × Text) :=
  r.map fun p => (c :: p.1, p.2)

/-- The character that an escape stands for, in front of what has been read. -/
def pushEscape (c? : Option Char) (r : Option (Text × Text)) : Option (Text × Text) :=
  c?.bind fun c => push c r

/-! ## On one line -/

/-- The string with escapes up to its closing quote, and what follows. -/
def basic? : Text → Option (Text × Text)
  | [] => none
  | '"' :: t => some ([], t)
  | '\\' :: 'x' :: a :: b :: t => pushEscape (numbered? [a, b]) (basic? t)
  | '\\' :: 'u' :: a :: b :: c :: d :: t => pushEscape (numbered? [a, b, c, d]) (basic? t)
  | '\\' :: 'U' :: a :: b :: c :: d :: e :: f :: g :: h :: t =>
    pushEscape (numbered? [a, b, c, d, e, f, g, h]) (basic? t)
  | '\\' :: c :: t => pushEscape (escaped? c) (basic? t)
  | c :: t => if c ≠ '\\' ∧ isPlain c then push c (basic? t) else none

/-- The string without escapes up to its closing quote, and what follows. -/
def literal? : Text → Option (Text × Text)
  | [] => none
  | '\'' :: t => some ([], t)
  | c :: t => if isPlain c then push c (literal? t) else none

/-! ## On several lines -/

/-- Is a text blank up to the end of its first line? -/
def isBlankLine (t : Text) : Bool := (newline? (t.dropWhile isBlank)).isSome

/-- The string with escapes up to its three closing quotes, and what follows. Up to two more quotes
belong to the string. `trimming` is set after a backslash at the end of a line. -/
def basicLines? (trimming : Bool) : Text → Option (Text × Text)
  | [] => none
  | '"' :: '"' :: '"' :: '"' :: '"' :: t => some (['"', '"'], t)
  | '"' :: '"' :: '"' :: '"' :: t => some (['"'], t)
  | '"' :: '"' :: '"' :: t => some ([], t)
  | '\\' :: 'x' :: a :: b :: t => pushEscape (numbered? [a, b]) (basicLines? false t)
  | '\\' :: 'u' :: a :: b :: c :: d :: t =>
    pushEscape (numbered? [a, b, c, d]) (basicLines? false t)
  | '\\' :: 'U' :: a :: b :: c :: d :: e :: f :: g :: h :: t =>
    pushEscape (numbered? [a, b, c, d, e, f, g, h]) (basicLines? false t)
  | '\r' :: '\n' :: t =>
    if trimming then basicLines? true t else push '\r' (push '\n' (basicLines? false t))
  | '\\' :: c :: t =>
    if isBlankLine (c :: t) then basicLines? true (c :: t)
    else pushEscape (escaped? c) (basicLines? false t)
  | c :: t =>
    if trimming && (isBlank c || c = '\n') then basicLines? true t
    else if c ≠ '\\' ∧ (isPlain c || c = '\n') then push c (basicLines? false t)
    else none

/-- The string without escapes up to its three closing quotes, and what follows. Up to two more
quotes belong to the string. -/
def literalLines? : Text → Option (Text × Text)
  | [] => none
  | '\'' :: '\'' :: '\'' :: '\'' :: '\'' :: t => some (['\'', '\''], t)
  | '\'' :: '\'' :: '\'' :: '\'' :: t => some (['\''], t)
  | '\'' :: '\'' :: '\'' :: t => some ([], t)
  | '\r' :: '\n' :: t => push '\r' (push '\n' (literalLines? t))
  | c :: t => if isPlain c || c = '\n' then push c (literalLines? t) else none

/-- A text without a line break at its start. -/
def dropNewline (t : Text) : Text := (newline? t).getD t

/-! ## Any string -/

/-- The string of one line at the start of a text, and the rest. -/
def quotedLine? : Text → Option (Text × Text)
  | '"' :: t => basic? t
  | '\'' :: t => literal? t
  | _ => none

/-- The string at the start of a text, and the rest. -/
def quoted? : Text → Option (Text × Text)
  | '"' :: '"' :: '"' :: t => basicLines? false (dropNewline t)
  | '\'' :: '\'' :: '\'' :: t => literalLines? (dropNewline t)
  | t => quotedLine? t

end GemDeps.Toml
