import GemDeps.Url.Domain

/-!
# URLs

A URL is a scheme, a colon and the rest. Where the rest has an authority, that is a host, possibly
with a user in front of it and a port behind. What follows is never wrong. Some schemes are special:
they always have an authority, and backslashes count as slashes.

* `Url.isValid`: is a text a URL?
-/

namespace GemDeps.Url

/-! ## Schemes -/

/-- The kinds of schemes. -/
inductive SchemeKind
  /-- The scheme of files. -/
  | file
  /-- Another special scheme. -/
  | special
  /-- Any other scheme. -/
  | other
  deriving DecidableEq, Repr

/-- The special schemes but that of files. -/
def specialSchemes : List Text := ["http", "https", "ws", "wss", "ftp"].map String.toList

/-- The kind of a scheme. -/
def SchemeKind.of (scheme : Text) : SchemeKind :=
  let s := scheme.map Char.toLower
  if s = "file".toList then .file else if s ∈ specialSchemes then .special else .other

/-- May a character stand in a scheme, if it is not the first? -/
def isSchemeChar (c : Char) : Bool := c.isAlphanum || c = '+' || c = '-' || c = '.'

/-- The scheme in front of the first colon, and what follows. -/
def splitScheme? : Text → Option (Text × Text)
  | [] => none
  | c :: t =>
    match t.dropWhile isSchemeChar with
    | ':' :: u => if c.isAlpha then some (c :: t.takeWhile isSchemeChar, u) else none
    | _ => none

/-! ## Authorities -/

/-- Does a character count as a slash? -/
def isSlash (k : SchemeKind) (c : Char) : Bool := c = '/' || (c = '\\' && k ≠ .other)

/-- Does a character end an authority? -/
def endsAuthority (k : SchemeKind) (c : Char) : Bool := isSlash k c || c = '?' || c = '#'

/-- Cuts an authority behind its last `@`; the user is what stands in front of that. -/
def splitUser (authority : Text) : Option Text × Text :=
  let host := (authority.reverse.takeWhile (· ≠ '@')).reverse
  let n := authority.length - host.length
  if n = 0 then (none, authority) else (some (authority.take (n - 1)), host)

/-- Cuts a host in front of its port: at the first colon outside brackets. -/
def splitPort (inBrackets : Bool) : Text → Text × Option Text
  | [] => ([], none)
  | ':' :: t =>
    if inBrackets then
      let (h, p) := splitPort inBrackets t
      (':' :: h, p)
    else ([], some t)
  | c :: t =>
    let (h, p) := splitPort (c = '[' || (inBrackets && c ≠ ']')) t
    (c :: h, p)

/-- The largest port. -/
def portLimit : Nat := 65535

/-- May a text start with a port, up to a backslash or the end? There may be no digit at all. -/
def isPort (t : Text) : Bool :=
  let digits := t.takeWhile (· ≠ '\\')
  digits.all Char.isDigit && Text.decimalValue digits ≤ portLimit

/-- May a text be a host with a port, if there is one? A host can be empty only without special
scheme, user and port. -/
def isHostAndPort (k : SchemeKind) (hasUser : Bool) (t : Text) : Bool :=
  let (host, port) := splitPort false t
  if host.isEmpty then k = .other && !hasUser && port.isNone
  else (if k = .other then isOpaqueHost host else isSpecialHost host) && (port.map isPort).getD true

/-- May a text start with an authority? -/
def hasAuthority (k : SchemeKind) (t : Text) : Bool :=
  let authority := t.takeWhile (!endsAuthority k ·)
  let rest := t.drop authority.length
  match splitUser authority with
  | (none, host) => isHostAndPort k false host
  | (some [], host) => !(host.isEmpty && !rest.isEmpty) && isHostAndPort k false host
  | (some user, host) => isHostAndPort k (user ≠ [':']) host

/-! ## Files -/

/-- Is a text a drive: a letter and a colon or bar? -/
def isDrive : Text → Bool
  | [c, d] => c.isAlpha && (d = ':' || d = '|')
  | _ => false

/-- May a text follow the scheme of files? Behind two slashes stands a host, which may be empty, or
a drive. -/
def isFileRest : Text → Bool
  | c :: d :: t =>
    if isSlash .file c && isSlash .file d then
      let host := t.takeWhile (!endsAuthority .file ·)
      host.isEmpty || isDrive host || isSpecialHost host
    else true
  | _ => true

/-! ## URLs -/

/-- A text without controls and spaces around it, and without tabs and line breaks anywhere. -/
def clean (t : Text) : Text :=
  let outer (c : Char) : Bool := c ≤ ' '
  ((t.dropWhile outer).reverse.dropWhile outer).reverse.filter fun c =>
    c ≠ '\t' && c ≠ '\n' && c ≠ '\r'

/-- May a text follow a scheme of some kind? -/
def isRest (k : SchemeKind) (t : Text) : Bool :=
  match k with
  | .file => isFileRest t
  | .special => hasAuthority .special (t.dropWhile (isSlash .special))
  | .other =>
    match t with
    | '/' :: '/' :: u => hasAuthority .other u
    | _ => true

/-- Is a text a URL? -/
def isValid (t : Text) : Bool :=
  match splitScheme? (clean t) with
  | some (scheme, rest) => isRest (.of scheme) rest
  | none => false

end GemDeps.Url
