import GemDeps.Text.Hexadecimal
import GemDeps.Text.Decimal

/-!
# Network addresses in URLs

* `Url.endsInNumber`: does a host end like an address of four bytes?
* `Url.isIpv4`: is a host such an address? Numbers may be decimal, octal or hexadecimal, and the
  last one may stand for several bytes.
* `Url.isIpv6`: is a text an address of eight pairs of bytes?
-/

namespace GemDeps.Url

/-! ## Four bytes -/

/-- The number that a part of an address writes. -/
def addressNumber? : Text → Option Nat
  | [] => none
  | '0' :: 'x' :: t | '0' :: 'X' :: t => Text.numberIn? 16 t
  | '0' :: c :: t => Text.numberIn? 8 (c :: t)
  | t => Text.numberIn? 10 t

/-- The parts of a host between points; a final point counts for nothing. -/
def addressParts (t : Text) : List Text :=
  match (t.splitOn '.').reverse with
  | [] :: p :: ps => (p :: ps).reverse
  | ps => ps.reverse

/-- Does a host end like an address of four bytes? -/
def endsInNumber (t : Text) : Bool :=
  match (addressParts t).getLast? with
  | some p => (!p.isEmpty && p.all Char.isDigit) || (addressNumber? p).isSome
  | none => false

/-- Is a host an address of four bytes? -/
def isIpv4 (t : Text) : Bool :=
  let parts := addressParts t
  match parts.mapM addressNumber? with
  | some ns =>
    parts.length ≤ 4 && ns.dropLast.all (· ≤ 255) &&
      match ns.getLast? with
      | some n => n < Nat.pow 256 (4 - ns.dropLast.length)
      | none => false
  | none => false

/-! ## Eight pairs of bytes -/

/-- Is a text one of the pairs: one to four hexadecimal digits? -/
def isPair (t : Text) : Bool :=
  !t.isEmpty && t.length ≤ 4 && t.all fun c => (Text.hexValue? c).isSome

/-- Is a text a byte in decimal digits, without leading zeros? -/
def isByte (t : Text) : Bool :=
  !t.isEmpty && t.all Char.isDigit && (t.length = 1 || t.head? ≠ some '0') &&
    Text.decimalValue t ≤ 255

/-- Is a text two pairs, written as four bytes? -/
def isFourBytes (t : Text) : Bool :=
  let parts := t.splitOn '.'
  parts.length = 4 && parts.all isByte

/-- The number of pairs in a text with colons between them. The last two may be written as bytes if
`final` is set. -/
def pairCount? (final : Bool) (t : Text) : Option Nat :=
  if t.isEmpty then some 0
  else
    let parts := t.splitOn ':'
    if parts.all isPair then some parts.length
    else if final && parts.dropLast.all isPair && (parts.getLast?.map isFourBytes).getD false then
      some (parts.length + 1)
    else none

/-- Cuts a text at the first double colon. -/
def cutDoubleColon : Text → Option (Text × Text)
  | ':' :: ':' :: t => some ([], t)
  | c :: t => (cutDoubleColon t).map fun p => (c :: p.1, p.2)
  | [] => none

/-- Is a text an address of eight pairs of bytes? A double colon stands for one pair of zeros or
more. -/
def isIpv6 (t : Text) : Bool :=
  match cutDoubleColon t with
  | none => pairCount? true t = some 8
  | some (l, r) =>
    match pairCount? false l, pairCount? true r with
    | some m, some n => m + n ≤ 7
    | _, _ => false

end GemDeps.Url
