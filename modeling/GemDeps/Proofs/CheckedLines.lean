import GemDeps.Proofs.CheckedManifests

/-!
# Lines with checked numbers

The searches for the lines of a manifest, and a buffer whose lines are read, replaced and inserted
at numbers that are checked. The searches find what the library finds, and every number that they
give back is that of a line (`LinesExist`), so the buffer of the same text can be asked for it.
-/

namespace GemDeps.Checked

/-! ## Lines by their numbers -/

/-- The line with number `i`. -/
def lineAt (lines : List Text) (i : Nat) : Checked Text :=
  match lines[i]? with
  | some l => .ok l
  | none => .error (.index i)

theorem lineAt_eq_ok {lines : List Text} {i : Nat} {l : Text} (h : lines[i]? = some l) :
    lineAt lines i = .ok l := by
  rw [lineAt, h]

theorem findSomeM?_eq_ok {α β : Type} {f : α → Checked (Option β)} {g : α → Option β} {as : List α}
    (h : ∀ a ∈ as, f a = .ok (g a)) : as.findSomeM? f = .ok (as.findSome? g) := by
  induction as with
  | nil => rfl
  | cons a as ih =>
    obtain ⟨ha, has⟩ := List.forall_mem_cons.1 h
    rw [List.findSomeM?, ha, ok_bind, List.findSome?_cons]
    cases g a with
    | some b => rfl
    | none => exact ih has

/-- The number of the first line in `p`, when the list starts with number `n`. -/
def firstLine? (p : Text → Checked Bool) (n : Nat) : List Text → Checked (Option Nat)
  | [] => .ok none
  | l :: ls => do if ← p l then return some n else firstLine? p (n + 1) ls

/-- The number of the last line in `p`, when the list starts with number `n` and `last` is the one
before. -/
def lastLine? (p : Text → Checked Bool) (last : Option Nat) (n : Nat) :
    List Text → Checked (Option Nat)
  | [] => .ok last
  | l :: ls => do lastLine? p (if ← p l then some n else last) (n + 1) ls

theorem firstLine?_eq {p : Text → Checked Bool} {q : Text → Bool} (h : ∀ l, p l = .ok (q l))
    (n : Nat) (ls : List Text) : firstLine? p n ls = .ok ((ls.findIdx? q).map (n + ·)) := by
  induction ls generalizing n with
  | nil => rfl
  | cons l ls ih =>
    rw [firstLine?, h, ok_bind, List.findIdx?_cons]
    by_cases hl : q l = true
    · rw [if_pos hl, if_pos hl]
      rfl
    · rw [if_neg hl, if_neg hl, ih, Option.map_map]
      simp only [Function.comp_def, Nat.add_assoc, Nat.add_comm 1]

theorem lastLine?_eq {p : Text → Checked Bool} {q : Text → Bool} (h : ∀ l, p l = .ok (q l))
    (last : Option Nat) (n : Nat) (ls : List Text) :
    lastLine? p last n ls = .ok ((lastIdx? q n ls).or last) := by
  induction ls generalizing last n with
  | nil => rfl
  | cons l ls ih =>
    rw [lastLine?, h, ok_bind, ih, lastIdx?]
    cases lastIdx? q (n + 1) ls with
    | some i => rfl
    | none => cases q l <;> rfl

/-! ## Declarations -/

/-- Does a line declare `name`? -/
def declares (kind : Kind) (name line : Text) : Checked Bool := do
  return match ← read? kind line with
    | some s => s.name = name
    | none => false

/-- Does a line declare anything? -/
def isDeclaration (kind : Kind) (line : Text) : Checked Bool := do
  return (← read? kind line).isSome

/-- The first line that declares `name`. -/
def declarationLine? (kind : Kind) (text name : Text) : Checked (Option Nat) :=
  firstLine? (declares kind name) 0 (Text.lines text)

/-- The last line that declares anything. -/
def lastDeclarationLine? (kind : Kind) (text : Text) : Checked (Option Nat) :=
  lastLine? (isDeclaration kind) none 0 (Text.lines text)

theorem declares_eq (kind : Kind) (name line : Text) :
    declares kind name line = .ok (GemDeps.declares kind name line) := by
  unfold declares
  rw [read?_eq]
  rfl

theorem isDeclaration_eq (kind : Kind) (line : Text) :
    isDeclaration kind line = .ok (Statement.read? kind line).isSome := by
  unfold isDeclaration
  rw [read?_eq]
  rfl

theorem declarationLine?_eq (kind : Kind) (text name : Text) :
    declarationLine? kind text name = .ok (GemDeps.declarationLine? kind text name) := by
  unfold declarationLine? GemDeps.declarationLine?
  rw [firstLine?_eq (declares_eq kind name)]
  simp only [Nat.zero_add, Option.map_id']

theorem lastDeclarationLine?_eq (kind : Kind) (text : Text) :
    lastDeclarationLine? kind text = .ok (GemDeps.lastDeclarationLine? kind text) := by
  unfold lastDeclarationLine? GemDeps.lastDeclarationLine?
  rw [lastLine?_eq (isDeclaration_eq kind)]
  exact congrArg Except.ok Option.or_none

/-! ## Blocks -/

/-- The number of lines up to the one on which `depth` open blocks are closed. -/
def linesToEnd? (depth : Int) : List Text → Checked (Option Nat)
  | [] => .ok none
  | l :: ls => do
    let delta ← blockDelta l
    if depth + delta ≤ 0 then return some 0
    else return (← linesToEnd? (depth + delta) ls).map (· + 1)

/-- The line that closes the block opened on line `start`. -/
def matchingEnd? (lines : List Text) (start : Nat) : Checked (Option Nat) := do
  return (← linesToEnd? 1 (lines.drop (start + 1))).map (start + 1 + ·)

/-- The block that opens on line `i`, if the line names the given groups and the block is closed. -/
def openedAt? (lines groups : List Text) (i : Nat) : Checked (Option GroupSpan) := do
  let line ← lineAt lines i
  match ← groupOpening? line with
  | none => return none
  | some names =>
    if GroupSpan.sameNames names groups then
      match ← matchingEnd? lines i with
      | none => return none
      | some stop =>
        let indent ← line.slice 0 (line.size - (Text.trimStart line).size)
        return some ⟨names, i, stop, indent⟩
    else return none

/-- The first closed block for exactly the given groups. -/
def findGroup? (text : Text) (groups : List Text) : Checked (Option GroupSpan) :=
  (List.range (Text.lines text).length).findSomeM? (openedAt? (Text.lines text) groups)

/-- The opening of a specification block on a line. -/
def specificationOpening? (line : Text) : Checked (Option SpecificationOpening) := do
  return match SpecificationOpening.splitDo? false (← stripComment line) with
    | some (before, receiver) =>
      if SpecificationOpening.callsIn false before then some ⟨Text.indentation line, receiver⟩
      else none
    | none => none

/-- Where dependencies can be inserted into a text. -/
def findSpecification (text : Text) : Checked SpecificationSpan := do
  let lines := Text.lines text
  let last ← lastDeclarationLine? .gemspec text
  let opening ← (List.range lines.length).findSomeM? fun i => do
    return (← specificationOpening? (← lineAt lines i)).map (i, ·)
  let stop ←
    match opening with
    | some o => matchingEnd? lines o.1
    | none => .ok none
  return {
    lastDependencyLine := last
    startLine := opening.map (·.1)
    endLine := stop
    indent := (opening.map (·.2.indent)).getD []
    receiver := opening.bind (·.2.receiver) }

theorem linesToEnd?_eq (depth : Int) (ls : List Text) :
    linesToEnd? depth ls = .ok (GemDeps.linesToEnd? depth ls) := by
  induction ls generalizing depth with
  | nil => rfl
  | cons l ls ih =>
    rw [linesToEnd?, GemDeps.linesToEnd?, blockDelta_eq, ok_bind, ih]
    split <;> rfl

theorem matchingEnd?_eq (lines : List Text) (start : Nat) :
    matchingEnd? lines start = .ok (GemDeps.matchingEnd? lines start) := by
  unfold matchingEnd?
  rw [linesToEnd?_eq]
  rfl

theorem slice_indentation (line : Text) :
    line.slice 0 (line.size - (Text.trimStart line).size) = .ok (Text.indentation line) := by
  have hline := Text.indentation_append_trimStart line
  have hslice := Text.slice_prefix (Text.indentation line) (Text.trimStart line)
  have hsize := congrArg Text.size hline
  rw [Text.size_append] at hsize
  rwa [hline, ← Nat.sub_eq_of_eq_add hsize.symm] at hslice

theorem openedAt?_eq {lines : List Text} {i : Nat} (hi : i < lines.length) (groups : List Text) :
    openedAt? lines groups i = .ok (GroupSpan.openedAt? lines groups i) := by
  have hline : lines[i]? = some lines[i] := List.getElem?_eq_getElem hi
  unfold openedAt? GroupSpan.openedAt?
  rw [lineAt_eq_ok hline, ok_bind, groupOpening?_eq, ok_bind, hline]
  dsimp only [Option.bind_eq_bind, Option.bind_some]
  cases GemDeps.groupOpening? lines[i] with
  | none => rfl
  | some names =>
    dsimp only [Option.bind_some]
    rw [matchingEnd?_eq, ok_bind]
    split
    · cases GemDeps.matchingEnd? lines i with
      | none => rfl
      | some stop =>
        dsimp only
        rw [slice_indentation]
        rfl
    · rfl

theorem findGroup?_eq (text : Text) (groups : List Text) :
    findGroup? text groups = .ok (GroupSpan.find? text groups) :=
  findSomeM?_eq_ok fun _ hi => openedAt?_eq (List.mem_range.1 hi) groups

theorem specificationOpening?_eq (line : Text) :
    specificationOpening? line = .ok (SpecificationOpening.ofLine? line) := by
  unfold specificationOpening?
  rw [stripComment_eq]
  rfl

theorem findSpecification_eq (text : Text) :
    findSpecification text = .ok (SpecificationSpan.find text) := by
  have hopening : ((List.range (Text.lines text).length).findSomeM? fun i => do
      return (← specificationOpening? (← lineAt (Text.lines text) i)).map (i, ·) :
        Checked (Option (Nat × SpecificationOpening))) =
      .ok (SpecificationSpan.opening? (Text.lines text)) := by
    refine findSomeM?_eq_ok fun i hi => ?_
    have hline := List.getElem?_eq_getElem (List.mem_range.1 hi)
    rw [lineAt_eq_ok hline, ok_bind, specificationOpening?_eq, hline]
    rfl
  unfold findSpecification SpecificationSpan.find
  dsimp only
  rw [lastDeclarationLine?_eq, ok_bind, hopening, ok_bind]
  cases SpecificationSpan.opening? (Text.lines text) with
  | none => rfl
  | some o =>
    dsimp only
    rw [matchingEnd?_eq]
    rfl

/-! ## Lines that exist -/

/-- Every line that a search in a text finds is a line of the buffer of that text. -/
structure LinesExist (t : Text) : Prop where
  declaration : ∀ kind name, ∀ i ∈ GemDeps.declarationLine? kind t name,
    i < (LineBuffer.ofText t).length
  lastDeclaration : ∀ kind, ∀ i ∈ GemDeps.lastDeclarationLine? kind t,
    i < (LineBuffer.ofText t).length
  group : ∀ groups, ∀ span ∈ GroupSpan.find? t groups,
    span.startLine < span.endLine ∧ span.endLine < (LineBuffer.ofText t).length
  specificationStart : ∀ i ∈ (SpecificationSpan.find t).startLine,
    i < (LineBuffer.ofText t).length
  specificationEnd : ∀ i ∈ (SpecificationSpan.find t).endLine,
    i < (LineBuffer.ofText t).length
  lastDependency : ∀ i ∈ (SpecificationSpan.find t).lastDependencyLine,
    i < (LineBuffer.ofText t).length

theorem linesExist (t : Text) : LinesExist t := by
  have hlength : (LineBuffer.ofText t).length = (Text.lines t).length := (length_lines t).symm
  have hlast : ∀ kind, ∀ i ∈ GemDeps.lastDeclarationLine? kind t,
      i < (LineBuffer.ofText t).length := by
    intro kind i hi
    obtain ⟨l, -, hl, -⟩ := lastDeclarationLine?_eq_some hi
    rw [hlength]
    exact (List.getElem?_eq_some_iff.1 hl).1
  refine ⟨?_, hlast, ?_, ?_, ?_, hlast .gemspec⟩
  · intro kind name i hi
    rw [hlength]
    exact (List.findIdx?_eq_some_iff_findIdx_eq.1 hi).1
  · intro groups span hspan
    obtain ⟨hlt, hend, -⟩ := GroupSpan.of_find? hspan
    rw [hlength]
    exact ⟨hlt, hend⟩
  · intro i hi
    obtain ⟨o, ho, rfl⟩ := Option.map_eq_some_iff.1 hi
    obtain ⟨j, hj, ho⟩ := List.exists_of_findSome?_eq_some ho
    obtain ⟨-, -, rfl⟩ := Option.map_eq_some_iff.1 ho
    rw [hlength]
    exact List.mem_range.1 hj
  · intro i hi
    rw [hlength]
    exact (SpecificationSpan.of_find t).1 i hi

/-! ## The buffer -/

/-- What stands on a line of a buffer. -/
def content (b : LineBuffer) (i : Nat) : Checked Text := lineAt b.contents i

/-- Do only blanks stand on the line? -/
def isBlank (b : LineBuffer) (i : Nat) : Checked Bool := do
  return (← content b i).all Text.isBlank

/-- The number of lines before the blank lines at the end of the first `n` lines. -/
def blankStart (b : LineBuffer) : Nat → Checked Nat
  | 0 => .ok 0
  | n + 1 => do if ← isBlank b n then blankStart b n else return n + 1

/-- What stands on a line replaced, its line end kept. -/
def replace (b : LineBuffer) (i : Nat) (content : Text) : Checked LineBuffer :=
  if i < b.length then .ok (b.replace i content) else .error (.index i)

/-- Lines put in front of line `i`, or after the last line. -/
def insert (b : LineBuffer) (i : Nat) (contents : List Text) : Checked LineBuffer :=
  if contents.isEmpty then .ok b
  else if i ≤ b.length then .ok (b.insert i contents)
  else .error (.index i)

section Buffer

variable {b : LineBuffer} {i : Nat}

theorem length_contents (b : LineBuffer) : b.contents.length = b.length := List.length_map _

theorem content_eq_getElem (hi : i < b.contents.length) : b.content i = b.contents[i] := by
  rw [LineBuffer.content, List.getD_eq_getElem?_getD, List.getElem?_eq_getElem hi]
  rfl

theorem content_eq (hi : i < b.length) : content b i = .ok (b.content i) := by
  rw [← length_contents] at hi
  rw [content_eq_getElem hi]
  exact lineAt_eq_ok (List.getElem?_eq_getElem hi)

theorem isBlank_eq (hi : i < b.length) : isBlank b i = .ok (b.isBlank i) := by
  unfold isBlank
  rw [content_eq hi]
  rfl

theorem blankStart_eq {n : Nat} (hn : n ≤ b.length) :
    blankStart b n =
      .ok ((b.contents.take n).reverse.dropWhile (·.all Text.isBlank)).length := by
  induction n with
  | zero => rfl
  | succ n ih =>
    have hlt : n < b.contents.length := by
      rw [length_contents]
      exact hn
    rw [blankStart, isBlank_eq hn, ok_bind, LineBuffer.isBlank, content_eq_getElem hlt,
      ih (Nat.le_of_lt hn), List.take_succ_eq_append_getElem hlt, List.reverse_append,
      List.reverse_singleton, List.singleton_append, List.dropWhile_cons]
    split
    · rfl
    · rw [List.length_cons, List.length_reverse, List.length_take,
        Nat.min_eq_left (Nat.le_of_lt hlt)]
      rfl

theorem blankStart_length (b : LineBuffer) :
    blankStart b b.length = .ok b.trailingBlankStart := by
  rw [blankStart_eq (Nat.le_refl _), ← length_contents, List.take_length]
  rfl

theorem replace_eq (hi : i < b.length) (content : Text) :
    replace b i content = .ok (b.replace i content) := if_pos hi

theorem insert_eq (hi : i ≤ b.length) (contents : List Text) :
    insert b i contents = .ok (b.insert i contents) := by
  unfold insert LineBuffer.insert
  rw [if_pos hi]
  split <;> rfl

end Buffer

end GemDeps.Checked
