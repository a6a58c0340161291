import ReactiveContract.Network.IpAddress
import ReactiveContract.Text.Quoted
/-! The part of a URL that says where it leads, and what spoils it. -/
namespace ReactiveContract.Network
open Text

structure Origin where
  scheme : String
  authority : List Char
  deriving DecidableEq, Repr, Inhabited

inductive OriginFault where
  | bracketMisplaced
  | futureAddress
  | notAddress (host : String)
  | ipv4InBrackets
  | delimiterInDisguise (authority : String)
  deriving DecidableEq, Repr

def OriginFault.message : OriginFault → String
  | .bracketMisplaced => "Invalid IPv6 URL"
  | .futureAddress => "IPvFuture address is invalid"
  | .notAddress host => s!"{quoted host} does not appear to be an IPv4 or IPv6 address"
  | .ipv4InBrackets => "An IPv4 address cannot be in brackets"
  | .delimiterInDisguise authority =>
    s!"netloc '{authority}' contains invalid characters under NFKC normalization"

def isSchemeChar (c : Char) : Bool := c.isAlphanum || c = '+' || c = '-' || c = '.'

/-- The text before the first colon, if it has the form of a scheme, and the text after that. -/
def splitScheme? (cs : List Char) : Option (List Char × List Char) :=
  let scheme := cs.takeWhile (· != ':')
  match cs.dropWhile (· != ':'), scheme with
  | _ :: rest, first :: _ =>
    if first.isAlpha && scheme.all isSchemeChar then some (scheme, rest) else none
  | _, _ => none

/-- The end of an authority, a path, a query or a fragment at its latest. -/
def isDelimiter (c : Char) : Bool := c = '/' || c = '?' || c = '#'

/-- The text between `//` and the path, the query or the fragment. -/
def authorityOf : List Char → List Char
  | '/' :: '/' :: rest => rest.takeWhile (!isDelimiter ·)
  | _ => []

/-- What follows the name and the password of a user. -/
def afterUserInfo (authority : List Char) : List Char :=
  (authority.reverse.takeWhile (· != '@')).reverse

/-- The host of an authority that has brackets. They enclose the whole host. -/
def hostInBrackets (authority : List Char) : Except OriginFault (List Char) :=
  let place := afterUserInfo authority
  match place.dropWhile (· != '[') with
  | [] => .ok (place.takeWhile (· != ':'))
  | _ :: rest =>
    let after := (rest.dropWhile (· != ']')).drop 1
    if place.head? != some '[' || (after != [] && after.head? != some ':') then
      .error .bracketMisplaced
    else .ok (rest.takeWhile (· != ']'))

/-- A version in hexadecimal digits, a point and some text. -/
def isFutureAddress (cs : List Char) : Bool :=
  let isHexDigit (c : Char) : Bool := (hexValue? c).isSome
  match cs with
  | 'v' :: rest =>
    !(rest.takeWhile isHexDigit).isEmpty
      && match rest.dropWhile isHexDigit with
        | '.' :: _ :: _ => true
        | _ => false
  | _ => false

def checkBracketedHost (host : List Char) : Except OriginFault Unit :=
  if host.head? = some 'v' then
    if isFutureAddress host then .ok () else .error .futureAddress
  else if isIpv4 host then .error .ipv4InBrackets
  else if isIpv6 host then .ok ()
  else .error (.notAddress (String.ofList host))

/-- Characters other than the delimiters themselves whose compatibility forms have one. -/
def disguisedDelimiters : List Char := [
  '\u2047', '\u2048', '\u2049', '\u2100', '\u2101', '\u2105', '\u2106', '\u2a74', '\ufe13',
  '\ufe16', '\ufe55', '\ufe56', '\ufe5f', '\ufe6b', '\uff03', '\uff0f', '\uff1a', '\uff1f',
  '\uff20']

def checkAuthority (authority : List Char) : Except OriginFault Unit := do
  if authority.contains '[' || authority.contains ']' then
    if authority.contains '[' && authority.contains ']' then
      checkBracketedHost (← hostInBrackets authority)
    else .error .bracketMisplaced
  if authority.any disguisedDelimiters.contains then
    .error (.delimiterInDisguise (String.ofList authority))

/-- Leading blanks and control characters do not count, nor tabs and line ends anywhere. -/
def cleanUrl (url : String) : List Char :=
  (url.toList.dropWhile fun c => c.toNat ≤ 0x20).filter fun c =>
    c != '\t' && c != '\r' && c != '\n'

/-- The scheme in small letters, which is empty when there is none, and the authority. -/
def Origin.ofUrl (url : String) : Except OriginFault Origin := do
  let cs := cleanUrl url
  let (scheme, rest) := (splitScheme? cs).getD ([], cs)
  let authority := authorityOf rest
  checkAuthority authority
  return ⟨String.ofList (scheme.map Char.toLower), authority⟩

end ReactiveContract.Network
