import GemDeps.Manifest.Statement

/-!
# Choosing and writing quotes

A string is written between quotes of one style, with a backslash in front of each backslash and of
each such quote inside. The style is the one asked for, else that of the line the new text goes
with, else the default.

* `QuoteStyle.wrap`: a string between quotes.
* `QuoteStyle.detect?`: the style of a statement.
* `QuoteStyle.resolve`: the style to write in.
-/

namespace GemDeps.QuoteStyle

/-- A string's characters with a backslash in front of each that needs one. -/
def escape (q : QuoteStyle) : Text → Text
  | [] => []
  | c :: t => if c = q.mark || c = '\\' then '\\' :: c :: escape q t else c :: escape q t

/-- A string between quotes. -/
def wrap (q : QuoteStyle) (t : Text) : Text := q.mark :: (escape q t ++ [q.mark])

/-- The style of the statement on a line, of either kind of manifest. -/
def detect? (line : Text) : Option QuoteStyle :=
  (Statement.readGem? line <|> Statement.readDependency? line).map (·.quote)

/-- The style asked for, else that of the line, else the default. -/
def resolve (explicit : Option QuoteStyle) (line : Option Text) (default : QuoteStyle) :
    QuoteStyle :=
  (explicit <|> line.bind detect?).getD default

/-- The name of a style. -/
def label : QuoteStyle → Text
  | single => "single".toList
  | double => "double".toList

/-- The style that a text names, in ASCII letters of either case, or by the quote itself. -/
def ofText? (t : Text) : Option QuoteStyle :=
  let t := t.map Char.toLower
  if t = single.label || t = [single.mark] then some single
  else if t = double.label || t = [double.mark] then some double
  else none

/-- The message about a text that names no style. -/
def unknownMessage (t : Text) : Text :=
  "unknown quote style `".toList ++ t.map Char.toLower ++ "` (expected single or double)".toList

end GemDeps.QuoteStyle
