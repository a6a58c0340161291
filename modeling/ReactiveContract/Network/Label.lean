import ReactiveContract.Network.LabelCharacter
import ReactiveContract.Network.Punycode
import ReactiveContract.Text.Composition
import ReactiveContract.Text.Direction
import ReactiveContract.Text.Joining
import ReactiveContract.Text.Script
/-! Labels of domain names, in characters of any script and in ASCII. -/
namespace ReactiveContract.Network
open Text

/-- No hyphen at an end, nor two that set a third and a fourth character apart. -/
def hyphensFit (label : List Char) : Bool :=
  label.head? != some '-' && label.getLast? != some '-' && (label.drop 2).take 2 != ['-', '-']

/-- Whether a mark that mutes a vowel comes directly before. -/
def followsVirama (before : List Char) : Bool :=
  (before.head?.map combiningClass).getD 0 == viramaClass

/-- Whether the first letter, past what letters join across, joins. -/
def meets (joins : Char → Bool) (cs : List Char) : Bool :=
  ((cs.dropWhile isTransparent).head?.map joins).getD false

def isArabicDigit (c : Char) : Bool := 0x660 ≤ c.toNat && c.toNat ≤ 0x669

def isExtendedArabicDigit (c : Char) : Bool := 0x6f0 ≤ c.toNat && c.toNat ≤ 0x6f9

def isJapanese (c : Char) : Bool := inRanges hiragana c || inRanges katakana c || inRanges han c

/-- Whether a character may stand where it does. What comes before it is reversed. -/
def fits (label before : List Char) (c : Char) (after : List Char) : Bool :=
  let nextTo (near : List Char) (table : List (Nat × Nat)) : Bool :=
    (near.head?.map (inRanges table)).getD false
  match c with
  | '\u200c' => followsVirama before || (meets joinsNext before && meets joinsPrevious after)
  | '\u200d' => followsVirama before
  | '\u00b7' => before.head? == some 'l' && after.head? == some 'l'
  | '\u0375' => nextTo after greek
  | '\u05f3' => nextTo before hebrew
  | '\u05f4' => nextTo before hebrew
  | '\u30fb' => label.any isJapanese
  | c =>
    if isArabicDigit c then !label.any isExtendedArabicDigit
    else if isExtendedArabicDigit c then !label.any isArabicDigit
    else isLabelCharacter c

/-- Whether what is left of a label fits after what is before it. -/
def fitAfter (label : List Char) : List Char → List Char → Bool
  | _, [] => true
  | before, c :: rest => fits label before c rest && fitAfter label (c :: before) rest

/-- Directions that make a label one that is written from the right. -/
def turns (d : Direction) : Bool := d = .rightToLeft || d = .arabicNumber

/-- The last direction other than those of marks. -/
def lastDirection (ds : List Direction) : Option Direction :=
  (ds.filter (· != .nonspacing)).getLast?

/-- Begins with a letter and keeps to its direction, which a letter or a number ends. -/
def directionsFit (label : List Char) : Bool :=
  let ds := label.map direction
  if !ds.any turns then true
  else match ds.head? with
    | some .rightToLeft =>
      !ds.contains .leftToRight
        && lastDirection ds ∈ [some .rightToLeft, some .arabicNumber, some .europeanNumber]
        && !(ds.contains .arabicNumber && ds.contains .europeanNumber)
    | _ => false

/-- The longest name, with a point at its end. -/
def maxNameLength : Nat := 254

/-- A label that a domain name may have, before it is written in ASCII. -/
def isLabel (label : List Char) : Bool :=
  match label with
  | [] => false
  | first :: _ =>
    label.length ≤ maxNameLength && hyphensFit label && !isMark first && fitAfter label [] label
      && isComposed label && directionsFit label

/-- What labels that stand for other characters begin with. -/
def codedPrefix : List Char := ['x', 'n', '-', '-']

/-- The label that a label in ASCII stands for. -/
def decodeLabel? (ascii : List Char) : Option (List Char) := do
  let label ←
    if codedPrefix.isPrefixOf ascii then
      let code := ascii.drop codedPrefix.length
      if code.isEmpty || code.getLast? = some '-' then none else Punycode.decode? code
    else some ascii
  if isLabel label then some label else none

def maxLabelLength : Nat := 63

/-- A label in small letters written in ASCII. -/
def encodeLabel? (label : List Char) : Option (List Char) := do
  let ascii ←
    if label.all Punycode.isBasic then (decodeLabel? label).map fun _ => label
    else if isLabel label then some (codedPrefix ++ Punycode.encode label)
    else none
  if ascii.length ≤ maxLabelLength then some ascii else none

end ReactiveContract.Network
