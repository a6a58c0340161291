import ReactiveContract.Decimal.Binary64
import ReactiveContract.Text.Blank
import ReactiveContract.Text.Case
import ReactiveContract.Text.DecimalDigit
/-! Numbers written as free-standing texts. -/
namespace ReactiveContract
open Text

/-- An integer with white space around it, in digits of any script with single underscores between
them. -/
def readInteger? (s : String) : Option Int := do
  let (negative, body) := splitSign (trimming isWhiteSpace s.toList)
  let ds ← separatedDigits? decimalDigit? body
  if ds.length ≤ maxDigits then some (signed negative (ofDigits ds)) else none

/-- Writes the digits of all scripts with ASCII digits. -/
def asciiDigits (cs : List Char) : List Char :=
  cs.map fun c => match decimalDigit? c with
    | some d => Char.ofNat (d + '0'.toNat)
    | none => c

/-- Removes underscores, each of which has to stand between two digits. -/
def withoutSeparators? (prev : Char) : List Char → Option (List Char)
  | [] => some []
  | '_' :: c :: rest =>
    if prev.isDigit && c.isDigit then (withoutSeparators? c rest).map (c :: ·) else none
  | '_' :: [] => none
  | c :: rest => (withoutSeparators? c rest).map (c :: ·)

/-- The exponent part of a decimal number: nothing, or `e` and an integer. -/
def readExponent? : List Char → Option Int
  | [] => some 0
  | c :: rest =>
    if c = 'e' ∨ c = 'E' then
      let (negative, ds) := splitSign rest
      if ds ≠ [] ∧ ds.all Char.isDigit then
        some (signed negative (ofDigits (ds.filterMap asciiDigit?)))
      else none
    else none

/-- An unsigned decimal number: digits, a point among or around them, an exponent. -/
def readDecimal? (negative : Bool) (cs : List Char) : Option Binary64 := do
  let whole := cs.takeWhile Char.isDigit
  let rest := cs.dropWhile Char.isDigit
  let (fraction, rest) := match rest with
    | '.' :: rest => (rest.takeWhile Char.isDigit, rest.dropWhile Char.isDigit)
    | rest => ([], rest)
  let ds := whole ++ fraction
  if ds = [] then none
  else
    let e ← readExponent? rest
    some (.ofDecimal negative (ofDigits (ds.filterMap asciiDigit?)) (e - fraction.length))

/-- A decimal number, an infinity or a NaN, with white space around it. -/
def readBinary64? (s : String) : Option Binary64 := do
  let cs ← withoutSeparators? ' ' (asciiDigits (trimming isWhiteSpace s.toList))
  let (negative, body) := splitSign cs
  let word := String.ofList (body.map Char.toLower)
  if word = "inf" ∨ word = "infinity" then some (.infinite negative)
  else if word = "nan" then some .nan
  else readDecimal? negative body

end ReactiveContract
