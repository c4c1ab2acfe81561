import GemDeps.Proofs.AddedLines
import GemDeps.Proofs.CheckedLines
import GemDeps.Revision.Pin

/-!
# Edits with checked cuts

The edits of a manifest, put together from the checked readers, searches and buffers. On every text,
with every name, options and style, they come to an end without a cut that fails, and give what the
library gives (`cuts_succeed`).
-/

namespace GemDeps.Checked

/-! ## Quotes -/

/-- The quotes of the statement on a line, of either kind of manifest. -/
def detectQuote? (line : Text) : Checked (Option QuoteStyle) := do
  match ← readGem? line with
  | some s => return some s.quote
  | none => return (← readDependency? line).map (·.quote)

/-- The quotes asked for, else those of the line, else the default. -/
def resolveQuote (explicit : Option QuoteStyle) (line : Option Text) (default : QuoteStyle) :
    Checked QuoteStyle :=
  match explicit, line with
  | some q, _ => .ok q
  | none, none => .ok default
  | none, some l => do return (← detectQuote? l).getD default

theorem detectQuote?_eq (line : Text) : detectQuote? line = .ok (QuoteStyle.detect? line) := by
  unfold detectQuote? QuoteStyle.detect?
  rw [readGem?_eq, ok_bind, readDependency?_eq]
  cases Statement.readGem? line <;> rfl

theorem resolveQuote_eq (explicit : Option QuoteStyle) (line : Option Text)
    (default : QuoteStyle) :
    resolveQuote explicit line default = .ok (QuoteStyle.resolve explicit line default) := by
  cases explicit with
  | some q => rfl
  | none =>
    cases line with
    | none => rfl
    | some l =>
      rw [resolveQuote, detectQuote?_eq]
      rfl

/-! ## Pinning -/

/-- Does the code of a line go on on the next line? -/
def continues (line : Text) : Checked Bool := do
  return match (Text.trimEnd (← stripComment line)).getLast? with
    | some c => c == ',' || c == '\\'
    | none => false

/-- The line that declares `name`, as its number and its statement. -/
def declarationToEdit (kind : Kind) (text name : Text) :
    Checked (Except RevisionError (Nat × Text × Statement)) := do
  match ← declarationLine? kind text name with
  | none => return .error (.declarationNotFound name)
  | some i =>
    let line ← content (.ofText text) i
    match ← read? kind line with
    | none => return .error (.declarationNotFound name)
    | some s =>
      return if ← continues line then .error (.multiLineDeclaration name) else .ok (i, line, s)

/-- The text with line `i` replaced. -/
def replaceLine (text : Text) (i : Nat) (line : Text) : Checked Revision := do
  return ⟨(← replace (.ofText text) i line).toText, i, i + 1⟩

/-- The text with the version constraint of `name` set. -/
def pin (text : Text) (kind : Kind) (name constraint : Text) (style : Style) :
    Checked (Except RevisionError Revision) := do
  match ← declarationToEdit kind text name with
  | .error e => return .error e
  | .ok (i, line, s) =>
    let q ← resolveQuote style.quote (some line) style.defaultQuote
    let (rest, _) ← dropVersionArguments s.rest false
    return .ok (← replaceLine text i
      (s.headIn q ++ ", ".toList ++ q.wrap constraint ++ rest))

/-- The text without the version constraints of `name`; `none` if it has none. -/
def unpin (text : Text) (kind : Kind) (name : Text) :
    Checked (Except RevisionError (Option Revision)) := do
  match ← declarationToEdit kind text name with
  | .error e => return .error e
  | .ok (i, _, s) =>
    let (rest, dropped) ← dropVersionArguments s.rest false
    if dropped then return .ok (some (← replaceLine text i (s.head ++ rest)))
    else return .ok none

theorem continues_eq (line : Text) : continues line = .ok (GemDeps.continues line) := by
  unfold continues
  rw [stripComment_eq]
  rfl

theorem declarationToEdit_eq (kind : Kind) (text name : Text) :
    declarationToEdit kind text name = .ok (GemDeps.declarationToEdit kind text name) := by
  unfold declarationToEdit GemDeps.declarationToEdit
  rw [declarationLine?_eq, ok_bind]
  cases hline : GemDeps.declarationLine? kind text name with
  | none => rfl
  | some i =>
    dsimp only
    rw [content_eq ((linesExist text).declaration kind name i hline), ok_bind, read?_eq, ok_bind]
    cases Statement.read? kind ((LineBuffer.ofText text).content i) with
    | none => rfl
    | some s =>
      dsimp only
      rw [continues_eq]
      rfl

/-- The line that is edited is a line of the text. -/
theorem lt_of_declarationToEdit {kind : Kind} {text name line : Text} {i : Nat} {s : Statement}
    (h : GemDeps.declarationToEdit kind text name = .ok (i, line, s)) :
    i < (LineBuffer.ofText text).length := by
  unfold GemDeps.declarationToEdit at h
  split at h
  · cases h
  · rename_i j hj
    dsimp only at h
    split at h
    · cases h
    · split at h
      · cases h
      · cases h
        exact (linesExist text).declaration kind name _ hj

theorem replaceLine_eq {text : Text} {i : Nat} (hi : i < (LineBuffer.ofText text).length)
    (line : Text) : replaceLine text i line = .ok (.ofLine text i line) := by
  unfold replaceLine
  rw [replace_eq hi]
  rfl

theorem pin_eq (text : Text) (kind : Kind) (name constraint : Text) (style : Style) :
    pin text kind name constraint style = .ok (GemDeps.pin text kind name constraint style) := by
  unfold pin GemDeps.pin
  rw [declarationToEdit_eq, ok_bind]
  cases hedit : GemDeps.declarationToEdit kind text name with
  | error e => rfl
  | ok p =>
    obtain ⟨i, line, s⟩ := p
    dsimp only
    rw [resolveQuote_eq, ok_bind, dropVersionArguments_eq, ok_bind]
    dsimp only
    rw [replaceLine_eq (lt_of_declarationToEdit hedit)]
    rfl

theorem unpin_eq (text : Text) (kind : Kind) (name : Text) :
    unpin text kind name = .ok (GemDeps.unpin text kind name) := by
  unfold unpin GemDeps.unpin
  rw [declarationToEdit_eq, ok_bind]
  cases hedit : GemDeps.declarationToEdit kind text name with
  | error e => rfl
  | ok p =>
    obtain ⟨i, line, s⟩ := p
    dsimp only
    rw [dropVersionArguments_eq, ok_bind, Bool.false_or]
    dsimp only
    rw [replaceLine_eq (lt_of_declarationToEdit hedit)]
    show _ = Except.ok (if hasVersionArgument s.rest then _ else _)
    split <;> rfl

/-! ## Adding a gem -/

/-- The text with lines put in front of line `i`. -/
def insertLines (text : Text) (i : Nat) (lines : List Text) : Checked Revision := do
  return ⟨(← insert (.ofText text) i lines).toText, i, i + lines.length⟩

/-- The last line that declares a gem. -/
def lastGemLine? (text : Text) : Checked (Option Text) := do
  match ← lastDeclarationLine? .gemfile text with
  | none => return none
  | some i => return some (← content (.ofText text) i)

/-- The last line inside a block that declares a gem. -/
def lastGemLineIn? (text : Text) (span : GroupSpan) : Checked (Option Text) :=
  ((List.range span.endLine).drop (span.startLine + 1)).reverse.findSomeM? fun i => do
    let line ← content (.ofText text) i
    return if ← isDeclaration .gemfile line then some line else none

/-- The line that decides on the quotes of a gem added to a block. -/
def gemLineFor? (text : Text) (span : GroupSpan) : Checked (Option Text) := do
  match ← lastGemLineIn? text span with
  | some line => return some line
  | none => lastGemLine? text

/-- A gem added as the last line of a block. -/
def addToBlock (text name : Text) (o : DeclarationOptions) (style : Style) (span : GroupSpan) :
    Checked Revision := do
  let q ← resolveQuote style.quote (← gemLineFor? text span) style.defaultQuote
  insertLines text span.endLine [span.indent ++ style.indent ++ gemStatement name o q]

/-- A gem added at the end of a file, in a block of its own if it has groups. -/
def addAtEnd (text name : Text) (o : DeclarationOptions) (style : Style) : Checked Revision := do
  let q ← resolveQuote style.quote (← lastGemLine? text) style.defaultQuote
  let i ← blankStart (.ofText text) (LineBuffer.ofText text).length
  insertLines text i <|
    if o.groups.isEmpty then [gemStatement name o q]
    else newBlock (0 < i) o.groups style.indent (gemStatement name o q) q

/-- A Gemfile with a gem added. -/
def addDeclaration (text name : Text) (o : DeclarationOptions) (style : Style) :
    Checked (Except RevisionError Revision) := do
  if (← declarationLine? .gemfile text name).isSome then return .error (.alreadyDeclared name)
  else
    match ← if o.groups.isEmpty then .ok none else findGroup? text o.groups with
    | some span => return .ok (← addToBlock text name o style span)
    | none => return .ok (← addAtEnd text name o style)

theorem insertLines_eq {text : Text} {i : Nat} (hi : i ≤ (LineBuffer.ofText text).length)
    (lines : List Text) : insertLines text i lines = .ok (.ofInsertion text i lines) := by
  unfold insertLines
  rw [insert_eq hi]
  rfl

theorem lastGemLine?_eq (text : Text) : lastGemLine? text = .ok (GemDeps.lastGemLine? text) := by
  unfold lastGemLine? GemDeps.lastGemLine?
  rw [lastDeclarationLine?_eq, ok_bind]
  cases hlast : GemDeps.lastDeclarationLine? .gemfile text with
  | none => rfl
  | some i =>
    dsimp only
    rw [content_eq ((linesExist text).lastDeclaration .gemfile i hlast)]
    rfl

/-- The lines between two numbers are what stands there. -/
theorem map_content_range {text : Text} {n : Nat} (hn : n ≤ (LineBuffer.ofText text).length)
    (k : Nat) :
    ((List.range n).drop k).map (LineBuffer.ofText text).content =
      ((Text.lines text).take n).drop k := by
  rw [List.map_drop]
  congr 1
  have hlength : (Text.lines text).length = (LineBuffer.ofText text).length := length_lines text
  refine List.ext_getElem (by simp [hlength, hn]) fun i hi hi' => ?_
  rw [List.getElem_map, List.getElem_range, List.getElem_take]
  have hlt : i < (Text.lines text).length := by simp at hi'; omega
  exact LineBuffer.content_ofText (List.getElem?_eq_getElem hlt)

theorem lastGemLineIn?_eq {text : Text} {span : GroupSpan}
    (hspan : span.endLine < (LineBuffer.ofText text).length) :
    lastGemLineIn? text span = .ok (GemDeps.lastGemLineIn? text span) := by
  have hlines : lastGemLineIn? text span =
      .ok (((List.range span.endLine).drop (span.startLine + 1)).reverse.findSome? fun i =>
        Option.guard (fun l => (Statement.readGem? l).isSome)
          ((LineBuffer.ofText text).content i)) := by
    refine findSomeM?_eq_ok fun i hi => ?_
    have hlt : i < span.endLine :=
      List.mem_range.1 (List.mem_of_mem_drop (List.mem_reverse.1 hi))
    rw [content_eq (Nat.lt_trans hlt hspan), ok_bind, isDeclaration_eq]
    rfl
  rw [hlines, GemDeps.lastGemLineIn?, ← map_content_range (Nat.le_of_lt hspan), ← List.map_reverse,
    List.find?_eq_findSome?_guard, List.findSome?_map]
  rfl

theorem gemLineFor?_eq {text : Text} {span : GroupSpan}
    (hspan : span.endLine < (LineBuffer.ofText text).length) :
    gemLineFor? text span =
      .ok (GemDeps.lastGemLineIn? text span <|> GemDeps.lastGemLine? text) := by
  unfold gemLineFor?
  rw [lastGemLineIn?_eq hspan, ok_bind, lastGemLine?_eq]
  cases GemDeps.lastGemLineIn? text span <;> rfl

theorem addToBlock_eq {text : Text} {span : GroupSpan}
    (hspan : span.endLine < (LineBuffer.ofText text).length) (name : Text)
    (o : DeclarationOptions) (style : Style) :
    addToBlock text name o style span = .ok (GemDeps.addToBlock text name o style span) := by
  unfold addToBlock
  rw [gemLineFor?_eq hspan, ok_bind, resolveQuote_eq, ok_bind,
    insertLines_eq (Nat.le_of_lt hspan)]
  rfl

theorem addAtEnd_eq (text name : Text) (o : DeclarationOptions) (style : Style) :
    addAtEnd text name o style = .ok (GemDeps.addAtEnd text name o style) := by
  unfold addAtEnd GemDeps.addAtEnd
  rw [lastGemLine?_eq, ok_bind, resolveQuote_eq, ok_bind, blankStart_length, ok_bind,
    insertLines_eq (trailingBlankStart_le text)]

theorem addDeclaration_eq (text name : Text) (o : DeclarationOptions) (style : Style) :
    addDeclaration text name o style = .ok (GemDeps.addDeclaration text name o style) := by
  unfold addDeclaration GemDeps.addDeclaration
  rw [declarationLine?_eq, ok_bind, findGroup?_eq]
  split
  · rfl
  · cases o.groups.isEmpty with
    | true =>
      rw [if_pos rfl, if_pos rfl, ok_bind, addAtEnd_eq]
      rfl
    | false =>
      rw [if_neg Bool.false_ne_true, if_neg Bool.false_ne_true, ok_bind]
      cases hspan : GroupSpan.find? text o.groups with
      | none =>
        dsimp only
        rw [addAtEnd_eq]
        rfl
      | some span =>
        dsimp only
        rw [addToBlock_eq ((linesExist text).group _ _ hspan).2]
        rfl

/-! ## Adding a dependency -/

/-- A dependency added after the line that declares the last one, in its manner. -/
def addAfter (text name : Text) (o : DeclarationOptions) (style : Style) (last : Nat) :
    Checked Revision := do
  let anchor ← content (.ofText text) last
  let s ← readDependency? anchor
  let indent := (s.map (·.indent)).getD []
  let receiver := (s.bind (·.receiver)).getD defaultReceiver
  let q ← resolveQuote style.quote (some anchor) style.defaultQuote
  insertLines text (last + 1) [indent ++ dependencyStatement receiver name o q]

/-- A dependency added as the last line of the specification block that ends on line `stop`. -/
def addToSpecification (text name : Text) (o : DeclarationOptions) (style : Style)
    (span : SpecificationSpan) (stop : Nat) : Checked Revision := do
  let q ← resolveQuote style.quote none style.defaultQuote
  let statement := dependencyStatement (span.receiver.getD defaultReceiver) name o q
  let apart ← if 0 < stop then (!·) <$> isBlank (.ofText text) (stop - 1) else .ok false
  insertLines text stop <|
    (if apart then [[]] else []) ++ [span.indent ++ style.indent ++ statement]

/-- A gemspec with a dependency added. -/
def addDependency (text name : Text) (o : DeclarationOptions) (style : Style) :
    Checked (Except RevisionError Revision) := do
  if (← declarationLine? .gemspec text name).isSome then return .error (.alreadyDeclared name)
  else
    let span ← findSpecification text
    match span.lastDependencyLine, span.endLine with
    | some last, _ => return .ok (← addAfter text name o style last)
    | none, some stop => return .ok (← addToSpecification text name o style span stop)
    | none, none => return .error .noSpecificationBlock

theorem addAfter_eq {text : Text} {last : Nat} (hlast : last < (LineBuffer.ofText text).length)
    (name : Text) (o : DeclarationOptions) (style : Style) :
    addAfter text name o style last = .ok (GemDeps.addAfter text name o style last) := by
  unfold addAfter GemDeps.addAfter
  rw [content_eq hlast, ok_bind, readDependency?_eq, ok_bind]
  dsimp only
  rw [resolveQuote_eq, ok_bind, insertLines_eq hlast]

theorem addToSpecification_eq {text : Text} {stop : Nat}
    (hstop : stop < (LineBuffer.ofText text).length) (name : Text) (o : DeclarationOptions)
    (style : Style) (span : SpecificationSpan) :
    addToSpecification text name o style span stop =
      .ok (GemDeps.addToSpecification text name o style span stop) := by
  unfold addToSpecification GemDeps.addToSpecification
  rw [resolveQuote_eq, ok_bind, isBlank_eq (Nat.lt_of_le_of_lt (Nat.sub_le stop 1) hstop)]
  by_cases hpos : 0 < stop
  · rw [if_pos hpos, decide_eq_true hpos, Bool.true_and]
    exact insertLines_eq (Nat.le_of_lt hstop) _
  · rw [if_neg hpos, decide_eq_false hpos, Bool.false_and]
    exact insertLines_eq (Nat.le_of_lt hstop) _

theorem addDependency_eq (text name : Text) (o : DeclarationOptions) (style : Style) :
    addDependency text name o style = .ok (GemDeps.addDependency text name o style) := by
  unfold addDependency GemDeps.addDependency
  rw [declarationLine?_eq, ok_bind, findSpecification_eq, ok_bind]
  dsimp only
  split
  · rfl
  · cases hlast : (SpecificationSpan.find text).lastDependencyLine with
    | some last =>
      dsimp only
      rw [addAfter_eq ((linesExist text).lastDependency last hlast)]
      rfl
    | none =>
      cases hstop : (SpecificationSpan.find text).endLine with
      | none => rfl
      | some stop =>
        dsimp only
        rw [addToSpecification_eq ((linesExist text).specificationEnd stop hstop)]
        rfl

/-! ## Every text -/

/-- On no text does a cut or a line number fail: the scanners come to stand between characters, the
lines that are found exist, and the reader and the four edits, whatever the names, options and style
they are given, succeed with what the library gives. -/
theorem cuts_succeed (t : Text) :
    ScansSucceed t ∧ LinesExist t ∧
      (∀ kind, readDocument kind t = .ok (Document.read kind t)) ∧
      (∀ kind name constraint style,
        pin t kind name constraint style = .ok (GemDeps.pin t kind name constraint style)) ∧
      (∀ kind name, unpin t kind name = .ok (GemDeps.unpin t kind name)) ∧
      (∀ name o style, addDeclaration t name o style =
        .ok (GemDeps.addDeclaration t name o style)) ∧
      ∀ name o style, addDependency t name o style = .ok (GemDeps.addDependency t name o style) :=
  ⟨scansSucceed t, linesExist t, fun kind => readDocument_eq kind t, pin_eq t, unpin_eq t,
    addDeclaration_eq t, addDependency_eq t⟩

/-- A line with a backslash in front of a character of two bytes. -/
def escapedLine : Text := "gem 'a\\é', ['>= 1'] # ü".toList

/-- A cut one byte behind the backslash's character would fail; pinning makes none there. -/
theorem cuts_succeed_escaped :
    escapedLine.slice 0 8 = .error (.slice 0 8) ∧
      (∃ i, commentStart? escapedLine = some i ∧ escapedLine.IsBoundary i) ∧
      pin escapedLine .gemfile "a\\é".toList "2".toList ⟨none, .double, []⟩ =
        .ok (.ok ⟨"gem 'a\\é', '2' # ü".toList, 0, 1⟩) := by
  obtain ⟨hscans, -, -, hpin, -⟩ := cuts_succeed escapedLine
  have hcomment : commentStart? escapedLine = some 21 := by
    rw [commentStart?_eq]
    decide
  have hedit : GemDeps.pin escapedLine .gemfile "a\\é".toList "2".toList ⟨none, .double, []⟩ =
      .ok ⟨"gem 'a\\é', '2' # ü".toList, 0, 1⟩ := by decide +kernel
  refine ⟨rfl, ⟨21, hcomment, hscans.comment 21 hcomment⟩, ?_⟩
  rw [hpin, hedit]

end GemDeps.Checked
