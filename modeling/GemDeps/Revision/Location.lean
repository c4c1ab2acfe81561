import GemDeps.Manifest.Gemfile

/-!
# Finding lines in a manifest

* `declarationLine?`, `lastDeclarationLine?`: the lines that declare dependencies.
* `GroupSpan.find?`: the block of a set of groups.
* `SpecificationSpan.find`: the specification block and the dependencies of a gemspec.
-/

namespace GemDeps

/-! ## Declarations -/

/-- Does a line declare `name`? -/
def declares (kind : Kind) (name line : Text) : Bool :=
  match Statement.read? kind line with
  | some s => s.name = name
  | none => false

/-- The first line that declares `name`. -/
def declarationLine? (kind : Kind) (text name : Text) : Option Nat :=
  (Text.lines text).findIdx? (declares kind name)

/-- The number of the last member in `p`, when the list starts with number `n`. -/
def lastIdx? (p : Text → Bool) (n : Nat) : List Text → Option Nat
  | [] => none
  | l :: ls => lastIdx? p (n + 1) ls <|> if p l then some n else none

/-- The last line that declares anything. -/
def lastDeclarationLine? (kind : Kind) (text : Text) : Option Nat :=
  lastIdx? (fun l => (Statement.read? kind l).isSome) 0 (Text.lines text)

/-! ## Group blocks -/

/-- A `group` block. -/
structure GroupSpan where
  /-- The groups as the block names them. -/
  names : List Text
  /-- The line that opens the block. -/
  startLine : Nat
  /-- The line that closes the block. -/
  endLine : Nat
  /-- The blanks in front of the opening line. -/
  indent : Text
  deriving DecidableEq, Repr

namespace GroupSpan

/-- Do two lists name the same groups, in any order? -/
def sameNames (xs ys : List Text) : Bool := xs.all (· ∈ ys) && ys.all (· ∈ xs)

/-- The block that opens on line `i`, if the line names the given groups and the block is closed. -/
def openedAt? (lines : List Text) (groups : List Text) (i : Nat) : Option GroupSpan := do
  let line ← lines[i]?
  let names ← groupOpening? line
  if sameNames names groups then
    let stop ← matchingEnd? lines i
    return ⟨names, i, stop, Text.indentation line⟩
  else none

/-- The first closed block for exactly the given groups. -/
def find? (text : Text) (groups : List Text) : Option GroupSpan :=
  (List.range (Text.lines text).length).findSome? (openedAt? (Text.lines text) groups)

end GroupSpan

/-! ## The specification block -/

/-- The line that opens a specification block. -/
structure SpecificationOpening where
  /-- The blanks in front of it. -/
  indent : Text
  /-- The block parameter. -/
  receiver : Option Text
  deriving DecidableEq, Repr

namespace SpecificationOpening

/-- Does the specification call stand in `t` as words of its own? `afterWord` says that a word
character stands right before `t`. -/
def callsIn (afterWord : Bool) : Text → Bool
  | [] => false
  | c :: t =>
    (!afterWord && startsWithWord specificationCall (c :: t)) || callsIn (Text.isWord c) t

/-- The block parameter between bars, if a text is blanks, an optional single parameter between
bars, and blanks. -/
def parameter? (t : Text) : Option (Option Text) :=
  match Text.trimStart t with
  | [] => some none
  | '|' :: r =>
    match Text.trimStart r with
    | [] => none
    | c :: s =>
      if Text.startsIdentifier c then
        match Text.trimStart (s.dropWhile Text.isWord) with
        | '|' :: u =>
          if (Text.trimStart u).isEmpty then some (some (c :: s.takeWhile Text.isWord)) else none
        | _ => none
      else none
  | _ => none

/-- What stands before the last `do` that ends a line's code with at most one block parameter, and
that parameter. -/
def splitDo? (afterWord : Bool) : Text → Option (Text × Option Text)
  | [] => none
  | c :: t =>
    ((splitDo? (Text.isWord c) t).map fun p => (c :: p.1, p.2)) <|>
      if !afterWord && c == 'd' && t.head? == some 'o' then
        (parameter? t.tail).map fun r => ([], r)
      else none

/-- The opening of a specification block on a line. -/
def ofLine? (line : Text) : Option SpecificationOpening :=
  match splitDo? false (stripComment line) with
  | some (before, receiver) =>
    if callsIn false before then some ⟨Text.indentation line, receiver⟩ else none
  | none => none

end SpecificationOpening

/-- Where dependencies can be inserted into a gemspec. -/
structure SpecificationSpan where
  /-- The last line that declares a dependency. -/
  lastDependencyLine : Option Nat
  /-- The line that opens the specification block. -/
  startLine : Option Nat
  /-- The line that closes the specification block. -/
  endLine : Option Nat
  /-- The blanks in front of the opening line. -/
  indent : Text
  /-- The block parameter. -/
  receiver : Option Text
  deriving DecidableEq, Repr

namespace SpecificationSpan

/-- The first line that opens a specification block. -/
def opening? (lines : List Text) : Option (Nat × SpecificationOpening) :=
  (List.range lines.length).findSome? fun i =>
    (lines[i]?.bind SpecificationOpening.ofLine?).map (i, ·)

/-- Where dependencies can be inserted into a text. -/
def find (text : Text) : SpecificationSpan :=
  let lines := Text.lines text
  let opening := opening? lines
  { lastDependencyLine := lastDeclarationLine? .gemspec text
    startLine := opening.map (·.1)
    endLine := opening.bind (matchingEnd? lines ·.1)
    indent := (opening.map (·.2.indent)).getD []
    receiver := opening.bind (·.2.receiver) }

end SpecificationSpan

end GemDeps
