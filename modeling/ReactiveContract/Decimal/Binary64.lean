/-! Binary floating-point numbers of 53 bits, in exact arithmetic. -/
namespace ReactiveContract

/-- A finite number is `mantissa * 2 ^ exponent` with its sign. -/
inductive Binary64 where
  | finite (negative : Bool) (mantissa : Nat) (exponent : Int)
  | infinite (negative : Bool)
  | nan
  deriving DecidableEq, Repr, Inhabited

namespace Binary64

def leastExponent : Int := -1074
def greatestExponent : Int := 971

/-- The quotient rounded to the nearest integer, a tie to the even one. -/
def divideToEven (num den : Nat) : Nat :=
  let q := num / den
  let r := num % den
  if 2 * r < den then q else if den < 2 * r then q + 1 else q + q % 2

/-- Two to the power of an exponent without its sign. -/
def twoPow (e : Int) : Nat := Nat.pow 2 e.natAbs

/-- Ten to the power of an exponent without its sign. -/
def tenPow (e : Int) : Nat := Nat.pow 10 e.natAbs

/-- `num / den * 2 ^ -e` as a quotient of naturals. -/
def scaled (num den : Nat) (e : Int) : Nat × Nat :=
  if e < 0 then (num * twoPow e, den) else (num, den * twoPow e)

/-- The exponent of the last mantissa bit of a positive quotient. -/
def quantumExponent (num den : Nat) : Int :=
  let k : Int := (num.log2 : Int) - (den.log2 : Int)
  let (n, d) := scaled num den k
  max leastExponent (if d ≤ n then k - 52 else k - 53)

/-- The nearest number to a positive quotient, a tie to the even mantissa. -/
def ofQuotient (negative : Bool) (num den : Nat) : Binary64 :=
  let e := quantumExponent num den
  let (n, d) := scaled num den e
  let q := divideToEven n d
  let (m, e) := if q = twoPow 53 then (twoPow 52, e + 1) else (q, e)
  if greatestExponent < e then .infinite negative else .finite negative m e

def zero (negative : Bool) : Binary64 := .finite negative 0 leastExponent

/-- How many decimal digits a number has. -/
def decimalLength (n : Nat) : Nat := (Nat.toDigits 10 n).length

/-- The nearest number to `digits * 10 ^ exponent`. -/
def ofDecimal (negative : Bool) (digits : Nat) (exponent : Int) : Binary64 :=
  let magnitude := (decimalLength digits : Int) + exponent
  if digits = 0 ∨ magnitude < -400 then zero negative
  else if 400 < magnitude then .infinite negative
  else if exponent < 0 then ofQuotient negative digits (tenPow exponent)
  else ofQuotient negative (digits * tenPow exponent) 1

/-- The order of a number and an integer; a NaN has none. -/
def compareInt? (x : Binary64) (n : Int) : Option Ordering :=
  match x with
  | .nan => none
  | .infinite negative => some (if negative then .lt else .gt)
  | .finite negative m e =>
    let m : Int := if negative then -(m : Int) else m
    some (if e < 0 then compare m (n * twoPow e) else compare (m * twoPow e) n)

/-- The integer that a number equals. -/
def toInt? (x : Binary64) : Option Int :=
  match x with
  | .finite negative m e =>
    let signed (n : Nat) : Int := if negative then -(n : Int) else n
    if 0 ≤ e then some (signed (m * twoPow e))
    else if m % twoPow e = 0 then some (signed (m / twoPow e)) else none
  | _ => none

end Binary64
end ReactiveContract
