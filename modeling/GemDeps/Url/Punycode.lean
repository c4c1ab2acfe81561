import GemDeps.Text.Basic

/-!
# Encoded labels

A label with characters beyond ASCII may be written in ASCII alone: its ASCII characters, a hyphen,
and one number in base 36 for each other character, which tells how far the character and its place
lie behind those of the one before.

* `Url.Punycode.decode?`: the characters that an encoded label writes.
-/

namespace GemDeps.Url.Punycode

/-- The base of the numbers. -/
def base : Nat := 36

/-- All numbers stay below this limit. -/
def numberLimit : Nat := Nat.pow 2 32

/-- The largest number of characters of an encoded label. -/
def lengthLimit : Nat := 2000

/-- The value of a digit. -/
def digit? (c : Char) : Option Nat :=
  if 'a' ≤ c ∧ c ≤ 'z' then some (c.toNat - 'a'.toNat)
  else if '0' ≤ c ∧ c ≤ '9' then some (c.toNat - '0'.toNat + 26)
  else none

/-- Divides a distance until it is small, and adds the base for each division. -/
def scaleDown (delta : Nat) : Nat :=
  if delta ≤ 455 then base * delta / (delta + 38) else base + scaleDown (delta / 35)
termination_by delta
decreasing_by omega

/-- Where the numbers are expected to end, after one of value `delta` with `count` characters so
far. -/
def adapt (delta count : Nat) (first : Bool) : Nat :=
  let d := if first then delta / 700 else delta / 2
  scaleDown (d + d / count)

/-- The state of a reader: the characters so far, the number of the last one, the place behind it,
where numbers are expected to end, and the number that is being read. -/
structure State where
  /-- The characters so far. -/
  output : Text
  /-- The number of the last character. -/
  last : Nat := 128
  /-- The place behind it, plus what has been read of the next number. -/
  place : Nat := 0
  /-- The place at which the number started. -/
  start : Nat := 0
  /-- Where the number is expected to end. -/
  bias : Nat := 72
  /-- The weight of the next digit. -/
  weight : Nat := 1
  /-- The position of the next digit, in steps of the base. -/
  position : Nat := 36
  deriving Repr

/-- The character with a number. -/
def char? (n : Nat) : Option Char :=
  if n < 0xD800 || (0xE000 ≤ n && n < 0x110000) then some (Char.ofNat n) else none

/-- The state after the last digit of a number. -/
def State.finish? (s : State) : Option State := do
  let count := s.output.length + 1
  let last := s.last + s.place / count
  let at_ := s.place % count
  let c ← char? last
  return {
    output := s.output.take at_ ++ c :: s.output.drop at_
    last := last
    place := at_ + 1
    start := at_ + 1
    bias := adapt (s.place - s.start) count (s.start = 0) }

/-- The state after a digit. -/
def State.step? (s : State) (c : Char) : Option State := do
  let d ← digit? c
  let s := { s with place := s.place + d * s.weight }
  let threshold := min 26 (max 1 (s.position - s.bias))
  let weight := s.weight * (base - threshold)
  if numberLimit ≤ s.place then none
  else if d < threshold then s.finish?
  else if numberLimit ≤ weight then none
  else return { s with weight, position := s.position + base }

/-- Cuts a text at its last hyphen; a hyphen in front of which nothing stands is no cut. -/
def cutLastHyphen (t : Text) : Text × Text :=
  let behind := (t.reverse.takeWhile (· ≠ '-')).reverse
  let n := t.length - behind.length - 1
  if n = 0 then ([], t) else (t.take n, behind)

/-- The characters that an encoded label writes. At least one is encoded. -/
def decode? (t : Text) : Option Text := do
  let (plain, encoded) := cutLastHyphen t
  let s ← encoded.foldlM State.step? { output := plain }
  let isWhole := s.weight = 1 ∧ s.position = base
  if encoded.isEmpty || lengthLimit < t.length || plain.any (0x80 ≤ ·.toNat) || ¬isWhole then none
  else some s.output

end GemDeps.Url.Punycode
