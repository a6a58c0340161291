import ReactiveContract.Decimal.Reading
import ReactiveContract.Explorer.Query
import ReactiveContract.Network.DomainName
import ReactiveContract.Network.Origin
import ReactiveContract.Text.LowerCase
/-! URLs of requests, taken apart and brought into normal form. -/
namespace ReactiveContract.Explorer
open Network Text

/-- Why a text is no URL. -/
inductive UrlFault where
  | tooLong
  | unprintable (c : Char) (position : Nat)
  | invalidIpv4 (host : List Char)
  | invalidIpv6 (host : List Char)
  | invalidName (host : List Char)
  | invalidPort (port : List Char)
  | pathNotAbsolute
  | pathLikeAuthority
  | pathLikeScheme
  deriving DecidableEq, Repr

def UrlFault.message : UrlFault → String
  | .tooLong => "URL too long"
  | .unprintable c position =>
    s!"Invalid non-printable ASCII character in URL, {quoted (String.singleton c)} at position "
      ++ s!"{position}."
  | .invalidIpv4 host => s!"Invalid IPv4 address: {quoted (String.ofList host)}"
  | .invalidIpv6 host => s!"Invalid IPv6 address: {quoted (String.ofList host)}"
  | .invalidName host => s!"Invalid IDNA hostname: {quoted (String.ofList host)}"
  | .invalidPort port => s!"Invalid port: {quoted (String.ofList port)}"
  | .pathNotAbsolute => "For absolute URLs, path must be empty or begin with '/'"
  | .pathLikeAuthority => "Relative URLs cannot have a path starting with '//'"
  | .pathLikeScheme => "Relative URLs cannot have a path starting with ':'"

/-- The texts between the delimiters of a URL. -/
structure UrlParts where
  scheme : List Char
  authority : List Char
  path : List Char
  query : Option (List Char)
  fragment : Option (List Char)
  deriving DecidableEq, Repr, Inhabited

/-- The scheme and the text after its colon, which may also stand alone. -/
def splitLeadingScheme (cs : List Char) : List Char × List Char :=
  match cs with
  | ':' :: rest => ([], rest)
  | _ => (splitScheme? cs).getD ([], cs)

/-- What follows the first of the given character, if it is there. -/
def after? (c : Char) (cs : List Char) : Option (List Char) :=
  match cs.dropWhile (· != c) with
  | [] => none
  | _ :: rest => some rest

/-- Takes a URL apart at its first delimiters. -/
def UrlParts.ofText (cs : List Char) : UrlParts :=
  let (scheme, rest) := splitLeadingScheme cs
  let authority := authorityOf rest
  let tail := if ['/', '/'].isPrefixOf rest then rest.drop (authority.length + 2) else rest
  let path := tail.takeWhile fun c => c != '?' && c != '#'
  { scheme, authority, path
    query := after? '?' (tail.takeWhile (· != '#'))
    fragment := after? '#' tail }

/-- A URL in normal form. -/
structure Url where
  scheme : List Char
  userInfo : List Char
  host : List Char
  port : Option Int
  path : List Char
  query : Option (List Char)
  fragment : Option (List Char)
  deriving DecidableEq, Repr, Inhabited

/-- A visible character of ASCII that may stand in a fragment. -/
def isFragmentChar (c : Char) : Bool :=
  0x20 < c.toNat && c.toNat < 0x7f && c ∉ ['"', '<', '>', '\x60']

/-- A character that may stand in a path. -/
def isPathChar (c : Char) : Bool :=
  isFragmentChar c && c ∉ ['#', '?', '\x7b', '\x7d']

/-- A character that may stand in the name or the password of a user. -/
def isUserInfoChar (c : Char) : Bool :=
  isPathChar c && c ∉ ['/', ';', '=', '@', '[', '\\', ']', '^', '|']

/-- A character that may stand in the name of a host. -/
def isHostChar (c : Char) : Bool :=
  isUnreserved c || c ∈ ['!', '$', '&', '\'', '(', ')', '*', '+', ',', ';', '=']
    || c ∈ ['"', '\x60', '\x7b', '\x7d', '%', '|', '\\']

/-- Goes one segment down the path that has been kept, up, or stays. -/
def stepSegment (kept : List (List Char)) (segment : List Char) : List (List Char) :=
  if segment = ['.'] then kept
  else if segment = ['.', '.'] then
    if kept = [[]] then kept else kept.dropLast
  else kept ++ [segment]

/-- A path without segments that stand for a place relative to another one. -/
def withoutDots (path : List Char) : List Char :=
  ['/'].intercalate ((splitAtEach '/' path).foldl stepSegment [])

/-- Whether four groups of digits with one character between two of them can be made out: a run of
`n` digits holds up to `(n + 1) / 2` of them. -/
def looksLikeIpv4 (host : List Char) : Bool :=
  let runs := splitAtEach '.' (host.map fun c => if c.isDigit then c else '.')
  let groups := runs.foldl (fun n run => n + (run.length + 1) / 2) 0
  runs.length ≤ 4 && runs.all (!·.isEmpty) && 4 ≤ groups

/-- A host in ASCII: an address as it is, or a name in small letters. -/
def normalHost (host : List Char) : Except UrlFault (List Char) :=
  if host.isEmpty then .ok []
  else if looksLikeIpv4 host then
    if isIpv4 host then .ok host else .error (.invalidIpv4 host)
  else if host.head? = some '[' && host.getLast? = some ']' then
    if isIpv6 ((host.drop 1).dropLast) then .ok host else .error (.invalidIpv6 host)
  else if host.all Punycode.isBasic then .ok (encodeOutside isHostChar (host.map Char.toLower))
  else match encodeName? (lowerCase host) with
    | some name => .ok name
    | none => .error (.invalidName host)

/-- The port that a scheme implies. -/
def defaultPorts : List (String × Int) :=
  [("ftp", 21), ("http", 80), ("https", 443), ("ws", 80), ("wss", 443)]

/-- The number of a port, unless the scheme implies it. -/
def normalPort (scheme port : List Char) : Except UrlFault (Option Int) :=
  if port.isEmpty then .ok none
  else match readInteger? (String.ofList port) with
    | none => .error (.invalidPort port)
    | some n => .ok (if defaultPorts.lookup (String.ofList scheme) = some n then none else some n)

/-- The host, up to the last bracket if it begins with one, and the text of the port. -/
def splitPort (place : List Char) : List Char × List Char :=
  let bracketed :=
    if place.head? = some '[' then (place.reverse.dropWhile (· != ']')).reverse else []
  let host := if bracketed.isEmpty then place.takeWhile (· != ':') else bracketed
  let rest := place.drop host.length
  (host, if rest.head? = some ':' then rest.drop 1 else rest)

/-- Whether a path agrees with what is before it. -/
def checkPath (hasScheme hasAuthority : Bool) (path : List Char) : Except UrlFault Unit :=
  if hasAuthority && !path.isEmpty && path.head? != some '/' then .error .pathNotAbsolute
  else if hasScheme || hasAuthority then .ok ()
  else if ['/', '/'].isPrefixOf path then .error .pathLikeAuthority
  else if path.head? = some ':' then .error .pathLikeScheme
  else .ok ()

/-- The name and the password of the user. -/
def UrlParts.userInfo (p : UrlParts) : List Char :=
  (p.authority.take (p.authority.length - (afterUserInfo p.authority).length)).dropLast

/-- The normal form; the host is read before the port, and the path last. -/
def UrlParts.normal (p : UrlParts) : Except UrlFault Url := do
  let (host, port) := splitPort (afterUserInfo p.authority)
  let scheme := p.scheme.map Char.toLower
  let userInfo := encodeOutside isUserInfoChar p.userInfo
  let host ← normalHost host
  let port ← normalPort scheme port
  let hasAuthority := !userInfo.isEmpty || !host.isEmpty || port.isSome
  checkPath (!scheme.isEmpty) hasAuthority p.path
  let path := if scheme.isEmpty && !hasAuthority then p.path else withoutDots p.path
  return { scheme, userInfo, host, port
           path := encodeOutside isPathChar path
           query := p.query
           fragment := p.fragment.map (encodeOutside isFragmentChar) }

/-- The longest URL. -/
def maxUrlLength : Nat := 65536

/-- Whether a part is longer than a whole URL may be. -/
def UrlParts.isTooLong (p : UrlParts) : Bool :=
  [p.scheme, p.authority, p.path, p.query.getD [], p.fragment.getD []].any fun part =>
    maxUrlLength < part.length

def isControl (c : Char) : Bool := c.toNat < 0x20 || c.toNat = 0x7f

def Url.read (text : String) : Except UrlFault Url :=
  let cs := text.toList
  if maxUrlLength < cs.length then .error .tooLong
  else match cs.find? isControl with
    | some c => .error (.unprintable c (cs.findIdx isControl))
    | none => (UrlParts.ofText cs).normal

namespace Url

/-- The text of the user, the host and the port. -/
def authority (url : Url) : List Char :=
  (if url.userInfo.isEmpty then [] else url.userInfo ++ ['@']) ++ url.host
    ++ match url.port with
      | some n => ':' :: (toString n).toList
      | none => []

def parts (url : Url) : UrlParts :=
  { scheme := url.scheme, authority := url.authority, path := url.path, query := url.query
    fragment := url.fragment }

/-- Whether a URL says where to connect to. -/
def isAbsolute (url : Url) : Bool := !url.scheme.isEmpty && !url.host.isEmpty

/-- What a URL comes to where nothing is known about the host. -/
def onlyPath (url : Url) : Url :=
  { scheme := [], userInfo := [], host := [], port := none, query := url.query
    path := '/' :: url.path.dropWhile (· = '/'), fragment := none }

/-- Whether the host can be shown in its own script, or sent if it is an address. -/
def hostReads (url : Url) : Bool :=
  if codedPrefix.isPrefixOf url.host then isDecodable url.host
  else url.host.all Punycode.isBasic

/-- The URL up to its query. -/
def place (url : Url) : List Char :=
  let authority := url.authority
  (if url.scheme.isEmpty then [] else url.scheme ++ [':'])
    ++ (if authority.isEmpty then [] else '/' :: '/' :: authority) ++ url.path

/-- The whole text of a URL. -/
def text (url : Url) : String :=
  let part (mark : Char) : Option (List Char) → List Char
    | some cs => mark :: cs
    | none => []
  String.ofList (url.place ++ part '?' url.query ++ part '#' url.fragment)

end Url

/-- Why no request is sent. -/
inductive RequestFault where
  | urlInvalid (fault : UrlFault)
  | hostUnreadable
  | unencodable
  deriving DecidableEq, Repr

/-- What becomes of a URL with surrogates. A host with one is no name, and all else is encoded: the
user before the host is looked at, and what follows the port after the rest has been. -/
def garbledUrl (text : String) : RequestFault :=
  let parts := UrlParts.ofText text.toList
  if maxUrlLength < pointCount text then .urlInvalid .tooLong
  else match text.toList.find? isControl with
    | some c => .urlInvalid (.unprintable c ((points text).findIdx (· = c.toNat)))
    | none =>
      if (plain? (String.ofList parts.userInfo)).isNone then .unencodable
      else match parts.normal with
        | .error fault => .urlInvalid fault
        | .ok _ => .unencodable

/-- The URL of a request with parameters, as far as these can be encoded. It is brought into normal
form once more. -/
def requestUrl (text : String) (parameters? : Option (List (String × String))) :
    Except RequestFault Url := do
  let some text := plain? text | throw (garbledUrl text)
  let url ← (Url.read text).mapError .urlInvalid
  let some parameters := parameters? | throw .unencodable
  let url := if url.isAbsolute then url else url.onlyPath
  let parts := { url.parts with query := some (query parameters).toList }
  if parts.isTooLong then throw (.urlInvalid .tooLong)
  let url ← parts.normal.mapError .urlInvalid
  if url.hostReads then return url else throw .hostUnreadable

end ReactiveContract.Explorer
