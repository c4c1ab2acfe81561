import GemDeps.Text.Basic

/-!
# TOML values and tables

A document is a table that grows line by line. How a table came about decides what may still be
added to it: a table in braces is complete, one that a header opened cannot be opened again or grown
by dotted keys, one that only lies on the way to another may be opened once.

* `Toml`: the values.
* `Toml.Entries.set?`: a table with a value under a dotted key.
* `Toml.Entries.openTable?`, `Toml.Entries.openItem?`: a table with one opened by a header.
-/

namespace GemDeps

/-- How a table has come about. -/
inductive Toml.Form
  /-- In braces. -/
  | inline
  /-- By a header of its own. -/
  | opened
  /-- On the way to a header's table. -/
  | passed
  /-- By a dotted key. -/
  | dotted
  deriving DecidableEq, Repr, Inhabited

/-- The values of TOML. -/
inductive Toml
  | text (t : Text)
  /-- A number, a truth value, a date or a time. -/
  | scalar
  /-- An array; `tables` tells whether headers add to it. -/
  | array (tables : Bool) (items : List Toml)
  | table (form : Toml.Form) (entries : List (Text × Toml))
  deriving Repr, Inhabited

namespace Toml

/-- The entries of a table. -/
abbrev Entries := List (Text × Toml)

namespace Entries

/-- The entries with the value under a key that is there replaced. -/
def replace (es : Entries) (k : Text) (v : Toml) : Entries :=
  es.map fun e => if e.1 = k then (k, v) else e

/-- What becomes of a table: how it came about, and its entries. -/
abbrev Change := Form → Entries → Option (Form × Entries)

/-- Changes the table to which keys lead. Tables that are not there yet are made; `viaDots` tells
whether the keys are those of a dotted key or those of a header. -/
def descend? (viaDots : Bool) (change : Change) : List Text → Change
  | [], form, es => change form es
  | k :: ks, form, es =>
    match es.lookup k with
    | none => do
      let (f, sub) ← descend? viaDots change ks (if viaDots then .dotted else .passed) []
      return (form, es ++ [(k, .table f sub)])
    | some (.table f sub) =>
      if f = .inline || (viaDots && f = .opened) then none
      else do
        let (f, sub) ← descend? viaDots change ks f sub
        return (form, es.replace k (.table f sub))
    | some (.array true items) =>
      match items.getLast? with
      | some (.table f sub) => do
        let (f, sub) ← descend? viaDots change ks f sub
        return (form, es.replace k (.array true (items.dropLast ++ [.table f sub])))
      | _ => none
    | some _ => none

/-- Adds a value under a new key. A table made by dotted keys grows by dotted keys alone, any other
by plain ones alone. -/
def add (isDotted : Bool) (k : Text) (v : Toml) : Change := fun form es =>
  let grows : Bool := (form = .dotted) = isDotted
  if grows && (es.lookup k).isNone then some (form, es ++ [(k, v)]) else none

/-- The change that puts a value under a dotted key. -/
def set? (path : List Text) (k : Text) (v : Toml) : Change :=
  descend? true (add (!path.isEmpty) k v) path

/-- The change that a header makes: its table is opened. -/
def openTable? (path : List Text) (k : Text) : Change :=
  descend? false (fun form es =>
    match es.lookup k with
    | none => some (form, es ++ [(k, .table .opened [])])
    | some (.table .passed sub) => some (form, es.replace k (.table .opened sub))
    | some _ => none) path

/-- The change that a header in double brackets makes: its array has one more table. -/
def openItem? (path : List Text) (k : Text) : Change :=
  descend? false (fun form es =>
    match es.lookup k with
    | none => some (form, es ++ [(k, .array true [.table .opened []])])
    | some (.array true items) =>
      some (form, es.replace k (.array true (items ++ [.table .opened []])))
    | some _ => none) path

/-- The change inside the table that a header has opened. -/
def inside? (header : List Text) (change : Change) : Change := descend? false change header

end Entries

end Toml

end GemDeps
