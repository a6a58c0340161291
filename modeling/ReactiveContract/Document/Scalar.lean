import ReactiveContract.Document.Checked
import ReactiveContract.Json.Basic
import ReactiveContract.Text.Blank
import ReactiveContract.Text.CodePoint
import ReactiveContract.Text.DecimalDigit
/-! Texts, integers, truth values, lists and objects as documents write them. -/
namespace ReactiveContract.Document
open Text

def text : Json → Checked String
  | .str s => .ok s
  | _ => .fail .textExpected

/-- A text that can be encoded. -/
def encodable (s : String) : Except Cause String :=
  if (plain? s).isSome then .ok s else .error .textUnencodable

/-- A text with at least one character. -/
def nonemptyText (j : Json) : Checked String :=
  ((text j).refine encodable).refine fun s => if s = "" then .error .textEmpty else .ok s

/-- Drops zeros and underscores after a zero; the last zero stays unless a digit follows. -/
def skipZeros? (last : Char) : List Char → Option (List Char)
  | [] => some [last]
  | c :: rest =>
    if c = '0' ∨ c = '_' then skipZeros? c rest
    else if c = '.' then some (last :: c :: rest)
    else if c.isDigit then some (c :: rest)
    else none

/-- A number without its leading zeros. -/
def withoutLeadingZeros? : List Char → Option (List Char)
  | '0' :: rest => skipZeros? '0' rest
  | c :: rest => if c.isDigit then some (c :: rest) else none
  | [] => none

/-- A number without a fraction of zeros. -/
def withoutZeroFraction (cs : List Char) : List Char :=
  match cs.dropWhile (· != '.') with
  | [] => cs
  | _ :: fraction =>
    if fraction ≠ [] ∧ fraction.all (· == '0') then cs.takeWhile (· != '.') else cs

/-- Whether an underscore follows another one. -/
def hasDoubleUnderscore : List Char → Bool
  | '_' :: '_' :: _ => true
  | _ :: rest => hasDoubleUnderscore rest
  | [] => false

/-- A number without underscores, each of which stands alone and inside. -/
def withoutUnderscores (cs : List Char) : List Char :=
  if cs.head? = some '_' ∨ cs.getLast? = some '_' ∨ hasDoubleUnderscore cs then cs
  else cs.filter (· != '_')

/-- An integer whose digits are in the only form that has no superfluous character. -/
def integerOfPlain (negative : Bool) (cs : List Char) : Except Cause Int :=
  let digits := cs.takeWhile Char.isDigit
  if digits = [] ∨ (digits.head? = some '0' ∧ cs ≠ ['0']) then .error .integerUnreadable
  else if maxDigits < digits.length + (if negative then 1 else 0) then .error .integerTooLong
  else if digits.length < cs.length then .error .integerUnreadable
  else .ok (signed negative (ofDigits (digits.filterMap asciiDigit?)))

/-- The integer that a text spells: white space around a sign, ASCII digits with single underscores
between them, and a fraction of zeros. -/
def integerOfText (s : String) : Except Cause Int :=
  let (negative, unsigned) := splitSign (trimming isWhiteSpace s.toList)
  match withoutLeadingZeros? unsigned with
  | some cs => integerOfPlain negative (withoutUnderscores (withoutZeroFraction cs))
  | none => .error .integerUnreadable

/-- The first positive number that does not fit into a word. -/
def wordBound : Nat := Nat.pow 2 63

/-- Whether a number lies strictly between `-2 ^ 63` and `2 ^ 63`. -/
def isWordSized (n : Int) : Bool := n.natAbs < wordBound

/-- The integer that a floating-point number equals. -/
def integerOfBinary (x : Binary64) : Except Cause Int :=
  match x with
  | .finite _ _ _ =>
    match x.toInt? with
    | some n => if isWordSized n then .ok n else .error .integerTooLong
    | none => .error .integerFractional
  | _ => .error .integerInfinite

def integer : Json → Checked Int
  | .int n => .ok n
  | .bool b => .ok (if b then 1 else 0)
  | .float x => (Checked.ok x).refine integerOfBinary
  | .str s => ((Checked.ok s).refine encodable).refine integerOfText
  | _ => .fail .integerExpected

def trueWords : List String := ["1", "on", "t", "true", "y", "yes"]

def falseWords : List String := ["0", "off", "f", "false", "n", "no"]

def truthOfInteger (n : Int) : Except Cause Bool :=
  if n = 0 then .ok false else if n = 1 then .ok true else .error .truthUnreadable

/-- The words are compared without regard to ASCII case. -/
def truthOfText (s : String) : Except Cause Bool :=
  let word := String.ofList (s.toList.map Char.toLower)
  if word ∈ trueWords then .ok true
  else if word ∈ falseWords then .ok false
  else .error .truthUnreadable

def truth : Json → Checked Bool
  | .bool b => .ok b
  | .str s => ((Checked.ok s).refine encodable).refine truthOfText
  | .int n =>
    if -(wordBound : Int) ≤ n ∧ n < wordBound then (Checked.ok n).refine truthOfInteger
    else .fail .truthExpected
  | .float x =>
    match integerOfBinary x with
    | .ok n => (Checked.ok n).refine truthOfInteger
    | .error _ => .fail .truthExpected
  | _ => .fail .truthExpected

/-- Null stands for an absent value. -/
def nullable (read : Json → Checked α) : Json → Checked (Option α)
  | .null => .ok none
  | j => some <$> read j

/-- Reads items of a list from the given index on, each on its own. -/
def itemsFrom (read : Json → Checked α) : Nat → List Json → Checked (List α)
  | _, [] => .ok []
  | i, j :: rest => List.cons <$> (read j).under (.index i) <*> itemsFrom read (i + 1) rest

def list (read : Json → Checked α) : Json → Checked (List α)
  | .arr items => itemsFrom read 0 items
  | _ => .fail .listExpected

def object : Json → Checked Fields
  | .obj fields => .ok fields
  | _ => .fail .objectExpected

/-- One of some fixed words. -/
def word (words : List String) : Json → Checked String
  | .str s =>
    ((Checked.ok s).refine encodable).refine fun s =>
      if s ∈ words then .ok s else .error (.wordExpected words)
  | _ => .fail (.wordExpected words)

/-- An integer above a bound. -/
def above (bound n : Int) : Except Cause Int :=
  if bound < n then .ok n else .error (.notAbove bound)

/-- An integer below a bound. -/
def below (bound n : Int) : Except Cause Int :=
  if n < bound then .ok n else .error (.notBelow bound)

end ReactiveContract.Document
