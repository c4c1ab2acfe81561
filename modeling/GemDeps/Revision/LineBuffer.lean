import GemDeps.Text.Blank
import GemDeps.Text.Lines

/-!
# Line buffers

A text taken apart into its lines, each with its own line end, so that lines which are not replaced
come back as they were. New lines get the line end of the first line.

* `LineBuffer.ofText`, `LineBuffer.toText`: a text as a buffer and back.
* `LineBuffer.replace`, `LineBuffer.insert`: one line replaced, lines put in front of a line.
* `toText_ofText`: nothing is lost.
-/

namespace GemDeps

/-! ## Line ends -/

/-- How a line ends. -/
inductive LineEnd
  | lf
  /-- A carriage return and a line feed. -/
  | crlf
  /-- Nothing: the text ends here. -/
  | open
  deriving DecidableEq, Repr, Inhabited

namespace LineEnd

/-- The characters of a line end. -/
def text : LineEnd → Text
  | lf => ['\n']
  | crlf => ['\r', '\n']
  | .open => []

end LineEnd

/-- A piece of text as what stands on the line, and the line's end. -/
def splitLineEnd : Text → Text × LineEnd
  | [] => ([], .open)
  | ['\n'] => ([], .lf)
  | ['\r', '\n'] => ([], .crlf)
  | c :: t => (c :: (splitLineEnd t).1, (splitLineEnd t).2)

theorem splitLineEnd_append (p : Text) : (splitLineEnd p).1 ++ (splitLineEnd p).2.text = p := by
  fun_induction splitLineEnd p with
  | case1 => rfl
  | case2 => rfl
  | case3 => rfl
  | case4 c t _ _ ih => simpa using ih

/-! ## Buffers -/

/-- Lines with their line ends, and the line end for new lines. -/
structure LineBuffer where
  /-- The lines, each with its line end. -/
  pieces : List Text
  /-- The line end for new lines. -/
  newline : LineEnd
  deriving DecidableEq, Repr, Inhabited

namespace LineBuffer

/-- The line end of a text's first line, a line feed if that line has none. -/
def newlineOf (pieces : List Text) : LineEnd :=
  match pieces with
  | [] => .lf
  | p :: _ => if (splitLineEnd p).2 = .crlf then .crlf else .lf

/-- A text as a buffer. -/
def ofText (t : Text) : LineBuffer := ⟨Text.pieces t, newlineOf (Text.pieces t)⟩

/-- The lines put together. -/
def toText (b : LineBuffer) : Text := b.pieces.flatten

theorem toText_ofText (t : Text) : (ofText t).toText = t := Text.flatten_pieces t

/-- The number of lines. -/
def length (b : LineBuffer) : Nat := b.pieces.length

/-- What stands on each line. -/
def contents (b : LineBuffer) : List Text := b.pieces.map fun p => (splitLineEnd p).1

/-- What stands on a line; nothing past the last line. -/
def content (b : LineBuffer) (i : Nat) : Text := b.contents.getD i []

/-- Do only blanks stand on the line? -/
def isBlank (b : LineBuffer) (i : Nat) : Bool := (b.content i).all Text.isBlank

/-- The number of lines before the blank lines at the end. -/
def trailingBlankStart (b : LineBuffer) : Nat :=
  (b.contents.reverse.dropWhile (·.all Text.isBlank)).length

/-- What stands on a line replaced, its line end kept. -/
def replace (b : LineBuffer) (i : Nat) (content : Text) : LineBuffer :=
  { b with pieces := b.pieces.modify i fun p => content ++ (splitLineEnd p).2.text }

/-- Lines as pieces, each with the line end of the buffer. -/
def terminated (b : LineBuffer) (contents : List Text) : List Text :=
  contents.map (· ++ b.newline.text)

/-- Is the last line without a line end? -/
def isOpen (b : LineBuffer) : Bool :=
  match b.pieces.getLast? with
  | some p => (splitLineEnd p).2 = .open
  | none => false

/-- Lines put in front of line `i`, or after the last line if there is no line `i`. After a last
line without a line end, that line gets one and the last new line stays without, so that the text
ends the way it did. -/
def insert (b : LineBuffer) (i : Nat) (contents : List Text) : LineBuffer :=
  if contents.isEmpty then b
  else if i = b.length && b.isOpen then
    { b with
      pieces := b.pieces.modify (b.length - 1) (· ++ b.newline.text) ++
        b.terminated contents.dropLast ++ contents.getLast?.toList }
  else { b with pieces := b.pieces.take i ++ b.terminated contents ++ b.pieces.drop i }

end LineBuffer

end GemDeps
