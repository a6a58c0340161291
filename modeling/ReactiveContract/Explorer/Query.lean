import ReactiveContract.Json.Display
import ReactiveContract.Text.CodePoint
import ReactiveContract.Text.Hexadecimal
/-! Characters of URLs as bytes in hexadecimal, and queries. -/
namespace ReactiveContract.Explorer
open Text

/-- A byte as `%` and two upper-case digits. -/
def percentByte (b : UInt8) : List Char :=
  '%' :: (hexDigits 2 b.toNat).map Char.toUpper

def percentEncode (c : Char) : List Char := (String.singleton c).toUTF8.toList.flatMap percentByte

/-- A text with the characters outside of a class encoded. -/
def encodeOutside (allowed : Char → Bool) (cs : List Char) : List Char :=
  cs.flatMap fun c => if allowed c then [c] else percentEncode c

def isUnreserved (c : Char) : Bool :=
  c.isAlphanum || c = '-' || c = '.' || c = '_' || c = '~'

/-- A character of a parameter value. -/
def queryChar (c : Char) : List Char :=
  if isUnreserved c then [c] else if c = ' ' then ['+'] else percentEncode c

def queryText (s : String) : String := String.ofList (s.toList.flatMap queryChar)

/-- A single value of a parameter as a text. -/
def parameterText : Json → String
  | .null => ""
  | .bool b => if b then "true" else "false"
  | j => j.display

/-- A parameter, given once for each item of a list, unless one of these has no bytes in UTF-8. -/
def parameter? (name : String) (j : Json) : Option (List (String × String)) :=
  let values := match j with
    | .arr items => items
    | j => [j]
  values.mapM fun j => (plain? (parameterText j)).map (name, ·)

/-- Names and values of parameters, joined. -/
def query (parameters : List (String × String)) : String :=
  "&".intercalate (parameters.map fun (name, value) => queryText name ++ "=" ++ queryText value)

end ReactiveContract.Explorer
