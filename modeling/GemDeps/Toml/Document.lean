import GemDeps.Toml.Quoted
import GemDeps.Toml.Scalar
import GemDeps.Toml.Value

/-!
# TOML documents

A document is a sequence of lines: a key with its value, a header that opens a table, or nothing but
a comment. Arrays and tables in brackets may go on over several lines.

* `Toml.value?`: the value at the start of a text.
* `Toml.Reader`: the table so far and the header under which keys stand.
* `Toml.parse?`: the table that a text writes.
-/

namespace GemDeps.Toml

/-! ## Blanks and comments -/

/-- The text after the blanks at its start. -/
def skipBlanks (t : Text) : Text := t.dropWhile isBlank

/-- The text after a comment, if it starts with one. -/
def skipComment : Text → Text
  | '#' :: t => t.dropWhile isPlain
  | t => t

/-- The text after the end of a line, which may be a comment or the end of the text. -/
def endLine? (t : Text) : Option Text :=
  match skipComment (skipBlanks t) with
  | [] => some []
  | u => newline? u

/-- The text after blanks, comments and line breaks. -/
def skipLines (inComment : Bool) : Text → Text
  | [] => []
  | '\n' :: t => skipLines false t
  | '\r' :: '\n' :: t => skipLines false t
  | c :: t =>
    if inComment then if isPlain c then skipLines true t else c :: t
    else if isBlank c then skipLines false t
    else if c = '#' then skipLines true t
    else c :: t

/-- The text after a character that has to come next, blanks aside. -/
def expect? (c : Char) (t : Text) : Option Text := [c].isPrefixOf? (skipBlanks t)

/-! ## Keys -/

/-- May a character stand in a key without quotes? -/
def isKeyChar (c : Char) : Bool := c.isAlphanum || c = '_' || c = '-'

/-- The key without dots at the start of a text, and the rest. -/
def simpleKey? (t : Text) : Option (Text × Text) :=
  match quotedLine? t with
  | some p => some p
  | none =>
    let k := t.takeWhile isKeyChar
    if k.isEmpty then none else some (k, t.dropWhile isKeyChar)

/-- The dotted key at the start of a text: what it passes, its last part, and the rest. -/
def key? (passed : List Text) (t : Text) : Nat → Option (List Text × Text × Text)
  | 0 => none
  | fuel + 1 => do
    let (k, u) ← simpleKey? (skipBlanks t)
    match expect? '.' u with
    | some v => key? (passed ++ [k]) v fuel
    | none => return (passed, k, u)

/-- The dotted key at the start of a text. Each part takes a character at least. -/
def dottedKey? (t : Text) : Option (List Text × Text × Text) := key? [] t (t.length + 1)

/-! ## Values -/

/-- May a character stand in a number, a date or a time? -/
def isWordChar (c : Char) : Bool :=
  c.isAlphanum || c = '_' || c = '-' || c = '+' || c = '.' || c = ':'

/-- The word at the start of a text, and the rest. A date goes on after a space that a digit
follows. -/
def splitWord (t : Text) : Text × Text :=
  let w := t.takeWhile isWordChar
  match t.dropWhile isWordChar with
  | ' ' :: c :: u =>
    if isDate w && c.isDigit then
      (w ++ ' ' :: (c :: u).takeWhile isWordChar, (c :: u).dropWhile isWordChar)
    else (w, ' ' :: c :: u)
  | u => (w, u)

/-- How deep arrays and tables in braces may be nested. -/
def depthLimit : Nat := 80

mutual

/-- The value at the start of a text, and the rest. -/
def valueAt? (depth : Nat) (t : Text) : Nat → Option (Toml × Text)
  | 0 => none
  | fuel + 1 =>
    match t with
    | '[' :: u => if depth = 0 then none else itemsAt? (depth - 1) [] (skipLines false u) fuel
    | '{' :: u => if depth = 0 then none else membersAt? (depth - 1) [] (skipLines false u) fuel
    | _ =>
      match quoted? t with
      | some (s, u) => some (.text s, u)
      | none =>
        let (w, u) := splitWord t
        if isScalar w then some (.scalar, u) else none

/-- The array whose items so far are given, and the rest. -/
def itemsAt? (depth : Nat) (items : List Toml) (t : Text) : Nat → Option (Toml × Text)
  | 0 => none
  | fuel + 1 =>
    match t with
    | ']' :: u => some (.array false items, u)
    | _ => do
      let (v, u) ← valueAt? depth t fuel
      match skipLines false u with
      | ',' :: w => itemsAt? depth (items ++ [v]) (skipLines false w) fuel
      | ']' :: w => some (.array false (items ++ [v]), w)
      | _ => none

/-- The table in braces whose entries so far are given, and the rest. -/
def membersAt? (depth : Nat) (entries : Entries) (t : Text) : Nat → Option (Toml × Text)
  | 0 => none
  | fuel + 1 =>
    match t with
    | '}' :: u => some (.table .inline entries, u)
    | _ => do
      let (path, k, u) ← dottedKey? t
      let (v, w) ← valueAt? depth (skipBlanks (← expect? '=' u)) fuel
      let (_, entries) ← Entries.set? path k v .inline entries
      match skipLines false w with
      | ',' :: x => membersAt? depth entries (skipLines false x) fuel
      | '}' :: x => some (.table .inline entries, x)
      | _ => none

end

/-- The value at the start of a text, and the rest. Of two calls in a row one takes a character. -/
def value? (t : Text) : Option (Toml × Text) := valueAt? depthLimit t (2 * t.length + 2)

/-! ## Lines -/

/-- What has been read. -/
structure Reader where
  /-- The table so far. -/
  entries : Entries := []
  /-- The header under which keys stand. -/
  header : List Text := []
  deriving Repr, Inhabited

namespace Reader

/-- The reader after a change of its table. -/
def revise? (r : Reader) (header : List Text) (change : Entries.Change) : Option Reader :=
  (change .opened r.entries).map fun p => ⟨p.2, header⟩

/-- The reader after the header at the start of a text, and the rest. -/
def header? (r : Reader) (t : Text) : Option (Reader × Text) :=
  match t with
  | '[' :: '[' :: u => do
    let (path, k, v) ← dottedKey? u
    let w ← "]]".toList.isPrefixOf? (skipBlanks v)
    return (← r.revise? (path ++ [k]) (Entries.openItem? path k), w)
  | '[' :: u => do
    let (path, k, v) ← dottedKey? u
    let w ← expect? ']' v
    return (← r.revise? (path ++ [k]) (Entries.openTable? path k), w)
  | _ => none

/-- The reader after the key and value at the start of a text, and the rest. -/
def member? (r : Reader) (t : Text) : Option (Reader × Text) := do
  let (path, k, u) ← dottedKey? t
  let (v, w) ← value? (skipBlanks (← expect? '=' u))
  return (← r.revise? r.header (Entries.inside? r.header (Entries.set? path k v)), w)

/-- The reader after the line at the start of a text, and the lines that follow. -/
def line? (r : Reader) (t : Text) : Option (Reader × Text) := do
  let (r, u) ←
    match t with
    | '[' :: _ => r.header? t
    | _ => r.member? t
  return (r, ← endLine? u)

/-- The reader after all lines. -/
def lines? (r : Reader) (t : Text) : Nat → Option Reader
  | 0 => none
  | fuel + 1 =>
    match skipLines false t with
    | [] => some r
    | u => do
      let (r, v) ← r.line? u
      lines? r v fuel

end Reader

/-- The text after a mark of its byte order. -/
def dropByteOrderMark : Text → Text
  | '\uFEFF' :: t => t
  | t => t

/-- The table that a text writes. Each line takes a character at least. -/
def parse? (t : Text) : Option Entries :=
  let t := dropByteOrderMark t
  (Reader.lines? {} t (t.length + 1)).map (·.entries)

end GemDeps.Toml
