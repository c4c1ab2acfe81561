import GemDeps.Url.Address
import GemDeps.Url.Label
import GemDeps.Url.Mapping
import GemDeps.Url.Punycode

/-!
# Hosts in URLs

The host of a special URL is a domain or an address. A domain may have percent-encoded bytes, and
labels with characters beyond ASCII, as they are or encoded. The host of any other URL is any text
without certain characters.

* `Url.isSpecialHost`, `Url.isOpaqueHost`: may a text be the host of a special, or of another URL?
-/

namespace GemDeps.Url

/-! ## Percent encoding -/

/-- The bytes of a text, percent-encoded ones decoded. -/
def percentDecode : Text → List UInt8
  | [] => []
  | '%' :: a :: b :: t =>
    match Text.hexValue? a, Text.hexValue? b with
    | some x, some y => .ofNat (16 * x + y) :: percentDecode t
    | _, _ => 0x25 :: percentDecode (a :: b :: t)
  | c :: t => (String.singleton c).toUTF8.toList ++ percentDecode t

/-- The text that bytes write. -/
def ofBytes? (bytes : List UInt8) : Option Text :=
  (String.fromUTF8? ⟨bytes.toArray⟩).map String.toList

/-! ## Forbidden characters -/

/-- The ASCII characters that may not occur in any host. -/
def isForbiddenInHost (c : Char) : Bool :=
  c = '\x00' || c = '\t' || c = '\n' || c = '\r' || "#/:<>?@[\\]^| ".toList.contains c

/-- The ASCII characters that may not occur in a domain. -/
def isForbiddenInDomain (c : Char) : Bool :=
  isForbiddenInHost c || c = '%' || c.toNat < 0x20 || c.toNat = 0x7F

/-! ## Labels -/

/-- The characters that an encoded label writes. They have to stand for themselves. -/
def decodeLabel? (t : Text) : Option Text :=
  (Punycode.decode? t).filter fun v =>
    mapDomain? v = some v && !v.any fun c => isForbiddenInDomain c || c = '.'

/-- The characters of a label; `none` if it is encoded, and not well. -/
def label? (t : Text) : Option Text :=
  match "xn--".toList.isPrefixOf? t with
  | some u => decodeLabel? u
  | none => some t

/-- May texts be the labels of a domain? -/
def areLabels (labels : List Text) : Bool :=
  labels.all Label.isWellFormed &&
    (!labels.any Label.needsDirection || labels.all Label.hasOneDirection)

/-! ## Hosts -/

/-- May a text, in which each character stands for itself, be a domain or an address of four
bytes? -/
def isMappedDomain (t : Text) : Bool :=
  !t.isEmpty && !t.any isForbiddenInDomain &&
    (((t.splitOn '.').mapM label?).map areLabels).getD false && (!endsInNumber t || isIpv4 t)

/-- May a text be a domain or an address of four bytes? -/
def isDomain (t : Text) : Bool :=
  (((ofBytes? (percentDecode t)).bind mapDomain?).map isMappedDomain).getD false

/-- Is a text an address of eight pairs of bytes in brackets, if it starts like one? -/
def bracketed? : Text → Option Bool
  | '[' :: t => some (((Text.dropLast? ']' t).map isIpv6).getD false)
  | _ => none

/-- May a text be the host of a special URL? -/
def isSpecialHost (t : Text) : Bool := (bracketed? t).getD (isDomain t)

/-- May a text be the host of a URL that is not special? -/
def isOpaqueHost (t : Text) : Bool := (bracketed? t).getD (!t.any isForbiddenInHost)

end GemDeps.Url
