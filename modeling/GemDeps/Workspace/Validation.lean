import GemDeps.Spelling.Statement
import GemDeps.Text.Digit
import GemDeps.Workspace.Error

/-!
# Checking inputs

Inputs are checked before any file is looked at.

* `checkGemName`, `checkVersion`, `checkSymbolNames`, `checkPlainText`: one input each.
* `checkOptions`: the options of a declaration to be added.
-/

namespace GemDeps

/-! ## Forms -/

/-- Is `c` an ASCII letter or digit, or a character in `extra`? -/
def isNameChar (extra : List Char) (c : Char) : Bool := c.isAlphanum || extra.contains c

/-- Is a text the name of a gem: an ASCII letter or digit, then letters, digits, `.`, `_` and
`-`? -/
def isGemName : Text → Bool
  | [] => false
  | c :: t => c.isAlphanum && t.all (isNameChar ['.', '_', '-'])

/-- Is a text the name of a group or platform: ASCII letters, digits, `_` and `-`, the first of them
no `-`? -/
def isSymbolName : Text → Bool
  | [] => false
  | c :: t => isNameChar ['_'] c && t.all (isNameChar ['_', '-'])

/-- Is a text one or more parts with a point in front of each, of ASCII letters and digits? -/
def isVersionTail (t : Text) : Bool :=
  match t.splitOn '.' with
  | [] :: parts => parts.all fun p => !p.isEmpty && p.all Char.isAlphanum
  | _ => false

/-- Is a text a version: decimal digits, and possibly more parts after points? -/
def isVersion (t : Text) : Bool :=
  let tail := t.dropWhile Text.isDecimal
  !(t.takeWhile Text.isDecimal).isEmpty && (tail.isEmpty || isVersionTail tail)

/-- The operators that a version may carry itself; of two that a text starts with, the longer comes
first. -/
def ownOperators : List Text := ["~>", ">=", "<=", "!=", ">", "<", "="].map String.toList

/-- The operator at the start of a text, with what follows it and blanks. -/
def splitOperator? (t : Text) : Option (Text × Text) :=
  ownOperators.findSome? fun op => (op.isPrefixOf? t).map fun r => (op, Text.trimStart r)

/-- The operator that a trimmed version constraint carries itself, if it is one at all. -/
def ownOperator? (t : Text) : Option (Option Text) :=
  match splitOperator? t with
  | some (op, r) => if isVersion r then some (some op) else none
  | none => if isVersion t then some none else none

/-! ## Checks -/

/-- The name of a gem. -/
def checkGemName (name : Text) : Except InputError Unit :=
  if isGemName name then .ok () else .error (.gemName name)

/-- A version, alone or with a separate operator. A version that carries an operator itself cannot
have another. -/
def checkVersion (version : Text) (operator : Option Operator) : Except InputError Unit :=
  match ownOperator? version.trim, operator with
  | none, _ => .error (.version version)
  | some (some own), some op => .error (.operatorConflict op version.trim own)
  | _, _ => .ok ()

/-- Names of groups or platforms, which are written as symbols. -/
def checkSymbolNames (field : Text) (names : List Text) : Except InputError Unit :=
  match names.find? (!isSymbolName ·) with
  | some name => .error (.symbolName field name)
  | none => .ok ()

/-- A text that is to be written between quotes. -/
def checkPlainText (field t : Text) : Except InputError Unit :=
  if t.all Text.isBlank then .error (.blankText field)
  else if t.any fun c => c == '\n' || c == '\r' then .error (.severalLines field)
  else .ok ()

/-- The version and operator of a declaration to be added. -/
def checkRequirement (o : DeclarationOptions) : Except InputError Unit :=
  match o.version, o.operator with
  | some v, op => checkVersion v op
  | none, some _ => .error .operatorAlone
  | none, none => .ok ()

/-- The name and options of a declaration to be added. -/
def checkOptions (name : Text) (o : DeclarationOptions) : Except InputError Unit := do
  checkGemName name
  checkRequirement o
  checkSymbolNames "groups".toList o.groups
  checkSymbolNames "platforms".toList o.platforms
  if let some source := o.source then checkPlainText "source".toList source
  if let some (.path p) := o.require then checkPlainText "requireOption".toList p

end GemDeps
