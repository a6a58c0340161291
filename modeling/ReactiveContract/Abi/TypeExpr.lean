import ReactiveContract.Text.DecimalDigit
/-! Type expressions of contract interfaces: their grammar and which of them are meaningful. -/
namespace ReactiveContract.Abi
open Text

/-- What follows the letters of a type name: nothing, a width, or a width and decimal places. -/
inductive Suffix where
  | none
  | width (bits : Nat)
  | scaled (bits places : Nat)
  deriving DecidableEq, Repr, Inhabited

/-- A name or a list of components, either with array dimensions, each of which may be open. -/
inductive TypeExpr where
  | basic (base : String) (suffix : Suffix) (dimensions : List (Option Nat))
  | tuple (components : List TypeExpr) (dimensions : List (Option Nat))
  deriving Inhabited

namespace TypeExpr

/-- A number that does not begin with zero. -/
def scanNumber : List Char → Option (Nat × List Char)
  | [] => none
  | c :: rest =>
    if '1' ≤ c ∧ c ≤ '9' then
      let ds := c :: rest.takeWhile Char.isDigit
      some (ofDigits (ds.filterMap asciiDigit?), rest.dropWhile Char.isDigit)
    else none

def scanSuffix (cs : List Char) : Suffix × List Char :=
  match scanNumber cs with
  | none => (.none, cs)
  | some (m, 'x' :: rest) =>
    match scanNumber rest with
    | some (n, rest) => (.scaled m n, rest)
    | none => (.width m, 'x' :: rest)
  | some (m, rest) => (.width m, rest)

/-- Array dimensions; the first argument bounds their number. -/
def scanDimensions : Nat → List Char → List (Option Nat) × List Char
  | fuel + 1, '[' :: ']' :: rest =>
    let (dimensions, rest) := scanDimensions fuel rest
    (none :: dimensions, rest)
  | fuel + 1, '[' :: rest =>
    match scanNumber rest with
    | some (n, ']' :: rest) =>
      let (dimensions, rest) := scanDimensions fuel rest
      (some n :: dimensions, rest)
    | _ => ([], '[' :: rest)
  | _, cs => ([], cs)

def scanBasic (cs : List Char) : Option (TypeExpr × List Char) :=
  match cs.takeWhile Char.isAlpha with
  | [] => none
  | base =>
    let (suffix, rest) := scanSuffix (cs.dropWhile Char.isAlpha)
    let (dimensions, rest) := scanDimensions rest.length rest
    some (.basic (String.ofList base) suffix dimensions, rest)

mutual

/-- A type at the head of a text; the first argument bounds its nesting and its length. -/
def scan : Nat → List Char → Option (TypeExpr × List Char)
  | 0, _ => none
  | fuel + 1, '(' :: rest => do
    let (components, rest) ← scanComponents fuel rest
    let (dimensions, rest) := scanDimensions rest.length rest
    return (.tuple components dimensions, rest)
  | _ + 1, cs => scanBasic cs

/-- The components of a tuple up to its closing parenthesis. -/
def scanComponents : Nat → List Char → Option (List TypeExpr × List Char)
  | 0, _ => none
  | fuel + 1, cs => do
    let (component, rest) ← scan fuel cs
    match rest with
    | ',' :: rest =>
      let (components, rest) ← scanComponents fuel rest
      return (component :: components, rest)
    | ')' :: rest => return ([component], rest)
    | _ => none

end

/-- Reads a whole text as a type. -/
def read? (text : String) : Option TypeExpr :=
  match scan (2 * text.length + 2) text.toList with
  | some (t, []) => some t
  | _ => none

/-- The full spelling of the names that stand for one with a suffix. -/
def spelledOut (base : String) : Suffix → String × Suffix
  | .none =>
    match base with
    | "int" | "uint" => (base, .width 256)
    | "fixed" | "ufixed" => (base, .scaled 128 18)
    | "function" => ("bytes", .width 24)
    | "byte" => ("bytes", .width 1)
    | _ => (base, .none)
  | suffix => (base, suffix)

/-- A multiple of eight from 8 to 256. -/
def isWordWidth (bits : Nat) : Bool := 8 ≤ bits && bits ≤ 256 && bits % 8 == 0

/-- Whether a name may have a suffix; names outside the language may have any. -/
def isMeaningful (base : String) (suffix : Suffix) : Bool :=
  match base with
  | "string" | "address" => suffix == .none
  | "bytes" =>
    match suffix with
    | .none => true
    | .width n => n ≤ 32
    | .scaled _ _ => false
  | "int" | "uint" =>
    match suffix with
    | .width n => isWordWidth n
    | _ => false
  | "fixed" | "ufixed" =>
    match suffix with
    | .scaled m n => isWordWidth m && 1 ≤ n && n ≤ 80
    | _ => false
  | "hash" =>
    match suffix with
    | .width _ => true
    | _ => false
  | _ => true

mutual

def isValid : TypeExpr → Bool
  | .basic base suffix _ =>
    let (base, suffix) := spelledOut base suffix
    isMeaningful base suffix
  | .tuple components _ => allValid components

def allValid : List TypeExpr → Bool
  | [] => true
  | t :: rest => isValid t && allValid rest

end

end TypeExpr
end ReactiveContract.Abi
