import ReactiveContract.Text.DecimalDigit
import ReactiveContract.Text.Hexadecimal
import ReactiveContract.Text.Blank
/-! Texts of internet addresses. -/
namespace ReactiveContract.Network
open Text

/-- A number up to 255 without needless zeros. -/
def isOctet (cs : List Char) : Bool :=
  !cs.isEmpty && cs.length ≤ 3 && cs.all Char.isDigit && (cs = ['0'] || cs.head? != some '0')
    && ofDigits (cs.filterMap asciiDigit?) ≤ 255

/-- Four numbers with points between them. -/
def isIpv4 (cs : List Char) : Bool :=
  let octets := splitAtEach '.' cs
  octets.length == 4 && octets.all isOctet

/-- One to four hexadecimal digits. -/
def isHextet (cs : List Char) : Bool :=
  !cs.isEmpty && cs.length ≤ 4 && cs.all fun c => (hexValue? c).isSome

/-- The parts between colons, with two groups for an address of the older kind at the end. -/
def hextets? (cs : List Char) : Option (List (List Char)) :=
  let parts := splitAtEach ':' cs
  let last := parts.getLast?.getD []
  if last.contains '.' then
    if isIpv4 last then some (parts.dropLast ++ [['0'], ['0']]) else none
  else some parts

/-- The parts before the first empty one that has a part on either side, and those after it. -/
def splitAtGap : List (List Char) → Option (List (List Char) × List (List Char))
  | first :: [] :: next :: rest => some ([first], next :: rest)
  | first :: second :: rest => (splitAtGap (second :: rest)).map fun (before, after) =>
    (first :: before, after)
  | _ => none

/-- The groups beside a gap; an empty one is only at the very end of the text. -/
def groupsBesideGap (before after : List (List Char)) : List (List Char) :=
  (if before = [[]] then [] else before) ++ (if after = [[]] then [] else after)

/-- Eight groups of digits, or fewer with one gap. -/
def isIpv6Number (cs : List Char) : Bool :=
  match hextets? cs with
  | none => false
  | some parts =>
    match splitAtGap parts with
    | none => parts.length == 8 && parts.all isHextet
    | some (before, after) =>
      let groups := groupsBesideGap before after
      groups.length < 8 && groups.all isHextet

/-- An address of the newer kind, perhaps with the name of a zone. -/
def isIpv6 (cs : List Char) : Bool :=
  let zone := cs.dropWhile (· != '%')
  isIpv6Number (cs.takeWhile (· != '%')) && !cs.contains '/'
    && (zone = [] || (zone.length != 1 && !(zone.drop 1).contains '%'))

end ReactiveContract.Network
