import GemDeps.Code.Comment
import GemDeps.Text.Blank
import GemDeps.Text.Word

/-!
# Blocks

A line opens a block when it ends in `do`, with or without block parameters, or starts with one of
the keywords that take an `end`. A line that starts with `end` closes a block.

* `splitDo?`: a line's code before a final `do`.
* `opensBlock`, `startsWithEnd`: what a line's code does.
* `blockDelta`: the change in block depth over a line.
* `matchingEnd?`: the line that closes the block opened on a line.
-/

namespace GemDeps

/-! ## The final `do` -/

/-- Does a text consist of blanks, optional block parameters between bars, and blanks? -/
def isDoTail (t : Text) : Bool :=
  match t.trimStart with
  | [] => true
  | '|' :: r =>
    match r.dropWhile (· != '|') with
    | [] => false
    | _ :: s => (Text.trimStart s).isEmpty
  | _ => false

/-- What stands before the first `do` that ends a line's code. `afterWord` says that a word
character stands right before the text; a `do` there would be part of a word. -/
def splitDo? (afterWord : Bool) : Text → Option Text
  | [] => none
  | c :: t =>
    if !afterWord && c == 'd' && t.head? == some 'o' && isDoTail t.tail then some []
    else (splitDo? (Text.isWord c) t).map (c :: ·)

/-! ## Openers and closers -/

/-- The keywords that open a block at the start of a line. -/
def openingKeywords : List Text :=
  ["if", "unless", "while", "until", "case", "begin", "def", "class", "module", "for"].map
    String.toList

/-- Does `t` start with the word `w`? -/
def startsWithWord (w t : Text) : Bool :=
  match w.isPrefixOf? t with
  | some r => Text.wordEnds r
  | none => false

/-- Does a line's code open a block? -/
def opensBlock (code : Text) : Bool :=
  let code := code.trim
  (splitDo? false code).isSome || openingKeywords.any (startsWithWord · code)

/-- Does a line's code start with `end`? -/
def startsWithEnd (code : Text) : Bool :=
  match "end".toList.isPrefixOf? code.trimStart with
  | some [] => true
  | some (c :: _) => !Text.isAsciiWord c
  | none => false

/-- Does a line's code end in an `end` of its own: at the start, or after a blank, `;` or `)`? -/
def endsWithEnd (code : Text) : Bool :=
  match "end".toList.isSuffixOf? code.trimEnd with
  | some r =>
    match r.getLast? with
    | none => true
    | some c => Text.isBlank c || c == ';' || c == ')'
  | none => false

/-- The change in block depth over a line. A block opened and closed on one line changes nothing. -/
def blockDelta (line : Text) : Int :=
  let code := (stripComment line).trim
  if startsWithEnd code then -1
  else if opensBlock code then if endsWithEnd code then 0 else 1
  else 0

/-! ## Matching -/

/-- The number of lines up to the one on which `depth` open blocks are closed. The depth has no
bound; 32 bits are enough for it in a text of fewer than `2 ^ 31` lines. -/
def linesToEnd? (depth : Int) : List Text → Option Nat
  | [] => none
  | l :: ls =>
    if depth + blockDelta l ≤ 0 then some 0
    else (linesToEnd? (depth + blockDelta l) ls).map (· + 1)

/-- The line that closes the block opened on line `start`. -/
def matchingEnd? (lines : List Text) (start : Nat) : Option Nat :=
  (linesToEnd? 1 (lines.drop (start + 1))).map (start + 1 + ·)

end GemDeps
