import ReactiveContract.Decimal.Binary64
/-! The fewest decimal digits that read back as a number, and their layout. -/
namespace ReactiveContract.Binary64

/-- The decimal exponent of the first digit of `m * 2 ^ e`. -/
def leadingExponent (m : Nat) (e : Int) : Int :=
  if e < 0 then (decimalLength (m * tenPow 400 / twoPow e) : Int) - 401
  else (decimalLength (m * twoPow e) : Int) - 1

/-- `m * 2 ^ e` in units of `10 ^ unit`, as a quotient of naturals. -/
def inUnits (m : Nat) (e unit : Int) : Nat × Nat :=
  let (n, d) := if e < 0 then (m, twoPow e) else (m * twoPow e, 1)
  if unit < 0 then (n * tenPow unit, d) else (n, d * tenPow unit)

/-- The nearest of the two grid neighbours of a quotient that pass a test. -/
def nearestPassing (num den : Nat) (ok : Nat → Bool) : Option Nat :=
  let lo := num / den
  let r := num % den
  match ok lo, ok (lo + 1) with
  | true, true => some (if 2 * r < den then lo else if den < 2 * r then lo + 1 else lo + lo % 2)
  | true, false => some lo
  | false, true => some (lo + 1)
  | false, false => none

/-- Digits and the exponent of their unit: the shortest decimal that reads back as `m * 2 ^ e`. -/
def shortest (m : Nat) (e : Int) : Nat × Int :=
  let first := leadingExponent m e
  let found := (List.range 17).findSome? fun (n : Nat) =>
    let unit := first - (n : Int)
    let (num, den) := inUnits m e unit
    (nearestPassing num den fun c => ofDecimal false c unit == .finite false m e).map (·, unit)
  found.getD (m, e)

/-- The digits of a number without trailing zeros. -/
def significantDigits (n : Nat) : List Char :=
  match ((Nat.toDigits 10 n).reverse.dropWhile (· == '0')).reverse with
  | [] => ['0']
  | ds => ds

def exponentText (p : Int) : String :=
  let digits := toString p.natAbs
  (if p < 0 then "e-" else "e+") ++ (if digits.length < 2 then "0" ++ digits else digits)

/-- Positional from `10 ^ -4` up to `10 ^ 16`, otherwise with an exponent of two digits or more;
`p` is the exponent of the first digit. -/
def layout (ds : List Char) (p : Int) : String :=
  if -4 ≤ p ∧ p < 16 then
    if p < 0 then "0." ++ String.ofList (List.replicate (p.natAbs - 1) '0' ++ ds)
    else
      let whole := p.natAbs + 1
      let padded := ds ++ List.replicate (whole + 1 - ds.length) '0'
      String.ofList (padded.take whole) ++ "." ++ String.ofList (padded.drop whole)
  else
    let mantissa := match ds with
      | [] => ""
      | [d] => String.ofList [d]
      | d :: rest => String.ofList (d :: '.' :: rest)
    mantissa ++ exponentText p

/-- The text of a number. -/
def display : Binary64 → String
  | .nan => "nan"
  | .infinite negative => if negative then "-inf" else "inf"
  | .finite negative m e =>
    let body := if m = 0 then "0.0" else
      let (c, unit) := shortest m e
      layout (significantDigits c) (unit + (decimalLength c : Int) - 1)
    if negative then "-" ++ body else body

end ReactiveContract.Binary64
