import UploadTemplate.Text.Percent
import UploadTemplate.Url.Address
import UploadTemplate.Url.Domain

/-!
# Hosts of URLs

The host that an absolute URL names. How a URL is read depends on its scheme: the schemes of the
web take any number of slashes, backslashes too, and a domain or an address behind them; file URLs
mostly name no host; all others keep the spelling of what stands behind two slashes.

- `Url.host?`: `none` for a text that is no URL, an empty text for a URL without a host.
-/

namespace UploadTemplate.Url

/-- The ways in which URLs are read. -/
inductive SchemeKind where
  | file
  | web
  | other
  deriving DecidableEq, Repr

def SchemeKind.ofScheme (scheme : Text) : SchemeKind :=
  match String.ofList (scheme.map Text.lowerAscii) with
  | "file" => .file
  | "http" | "https" | "ws" | "wss" | "ftp" => .web
  | _ => .other

/-- Backslashes count as slashes except behind other schemes. -/
def SchemeKind.isSlash (k : SchemeKind) (c : Char) : Bool := c = '/' || (k != .other && c = '\\')

/-- The end of a host with its user before it and the number of a service behind it. -/
def SchemeKind.endsAuthority (k : SchemeKind) (c : Char) : Bool :=
  k.isSlash c || c = '?' || c = '#'

/-! ### Parts of a URL -/

def isTabOrLineEnd (c : Char) : Bool := c = '\t' || c = '\n' || c = '\r'

/-- The text without what is ignored around a URL and in it. -/
def clean (t : Text) : Text :=
  let outer (c : Char) : Bool := c ≤ ' '
  (((t.dropWhile outer).reverse.dropWhile outer).reverse).filter fun c => !isTabOrLineEnd c

def isSchemeChar (c : Char) : Bool :=
  Text.isAsciiAlphanumeric c || c = '+' || c = '-' || c = '.'

/-- The scheme of a text and what stands behind its colon. -/
def splitScheme? (t : Text) : Option (Text × Text) :=
  match Text.splitOnce ':' t with
  | some (scheme, rest) =>
    if scheme.head?.any Text.isAsciiLetter && scheme.all isSchemeChar then some (scheme, rest)
    else none
  | none => none

/-- What stands behind the user of a text that begins with a host, and a user before it if any; and
whether a user is named. A user without a host is refused. -/
def skipUser? (k : SchemeKind) (t : Text) : Option (Bool × Text) :=
  let authority := t.takeWhile fun c => !k.endsAuthority c
  if '@' ∈ authority then
    let hostLength := (authority.reverse.takeWhile (· != '@')).length
    let user := authority.take (authority.length - hostLength - 1)
    let rest := t.drop (user.length + 1)
    if user.isEmpty ∧ hostLength = 0 ∧ rest ≠ [] then none
    else some (!user.isEmpty && user != [':'], rest)
  else some (false, t)

/-- The host at the beginning of a text and what follows it. A colon within brackets belongs to
the host. -/
def takeHost (k : SchemeKind) (inBrackets : Bool) : Text → Text × Text
  | [] => ([], [])
  | c :: r =>
    if (c = ':' ∧ inBrackets = false) ∨ k.endsAuthority c = true then ([], c :: r)
    else
      let inBrackets := if c = '[' then true else if c = ']' then false else inBrackets
      let (host, rest) := takeHost k inBrackets r
      (c :: host, rest)

/-- Whether a text that follows a host begins with a colon and the number of a service, which has
sixteen bits, or goes on without one. -/
def hasValidService (t : Text) : Bool :=
  match t with
  | ':' :: r =>
    let digits := r.takeWhile Text.isAsciiDigit
    Numeral.decimalValue digits ≤ 65535 &&
      (r.dropWhile Text.isAsciiDigit).head?.all fun c => "/\\?#".toList.contains c
  | _ => true

/-! ### Hosts -/

/-- An address in brackets. -/
def bracketed? (t : Text) : Option Text :=
  if t.getLast? = some ']' then
    (Address.long? t.dropLast).map fun gs => '[' :: Address.writeLong gs ++ "]"
  else none

/-- The host of a web URL: an address or a domain, percent-coded or not. -/
def webHost? (t : Text) : Option Text :=
  match t with
  | '[' :: r => bracketed? r
  | t => do
    let decoded ← Utf8.decode (Percent.decodeBytes t)
    let domain ← Domain.toAscii? decoded
    if domain.isEmpty then none
    else if Address.isNumeric domain then (Address.short? domain).map Address.writeShort
    else pure domain

/-- A character of a host that is kept as it is spelled. -/
def opaqueChar (c : Char) : Text :=
  if Text.isAscii c && !Text.isControl c then [c]
  else (String.utf8EncodeChar c).flatMap Percent.escape

/-- The host of a URL of any other scheme. -/
def opaqueHost? (t : Text) : Option Text :=
  match t with
  | '[' :: r => bracketed? r
  | t =>
    if t.any fun c => c = '\x00' || " #/:<>?@[\\]^|".toList.contains c then none
    else some (t.flatMap opaqueChar)

/-- A drive of a disk, whose colon may be a bar. -/
def isDrive : Text → Bool
  | [c, d] => Text.isAsciiLetter c && (d = ':' || d = '|')
  | _ => false

/-- Whether the path of a file begins with a drive. -/
def beginsWithDrive : Text → Bool
  | [] => false
  | c :: r =>
    SchemeKind.file.isSlash c && isDrive (r.takeWhile fun c => !SchemeKind.file.endsAuthority c)

/-- The host of a file URL from behind its scheme. The host of the machine itself is none, and a
drive leaves none. -/
def fileHost? : Text → Option Text
  | a :: b :: r =>
    let k := SchemeKind.file
    if k.isSlash a && k.isSlash b then
      let host := r.takeWhile fun c => !k.endsAuthority c
      if host.isEmpty ∨ isDrive host then some []
      else do
        let made ← webHost? host
        if made = "localhost".toList ∨ beginsWithDrive (r.drop host.length) then pure []
        else pure made
    else some []
  | _ => some []

/-- The host of a text that begins behind the slashes of a URL. -/
def authorityHost? (k : SchemeKind) (t : Text) : Option Text := do
  let (hasUser, t) ← skipUser? k t
  let (host, rest) := takeHost k false t
  if host.isEmpty then
    if k = .web ∨ hasUser ∨ rest.head? = some ':' then none else pure []
  else
    let made ← if k = .web then webHost? host else opaqueHost? host
    if hasValidService rest then pure made else none

/-- The host of a URL. -/
def host? (t : Text) : Option Text := do
  let (scheme, rest) ← splitScheme? (clean t)
  match SchemeKind.ofScheme scheme with
  | .file => fileHost? rest
  | .web => authorityHost? .web (rest.dropWhile SchemeKind.web.isSlash)
  | .other =>
    match rest with
    | '/' :: '/' :: r => authorityHost? .other r
    | _ => pure []

end UploadTemplate.Url
