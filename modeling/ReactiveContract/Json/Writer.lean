import ReactiveContract.Json.Basic
import ReactiveContract.Text.CodePoint
import ReactiveContract.Text.Hexadecimal
/-! JSON values written without blanks. -/
namespace ReactiveContract.Json
open Text

/-- Quotes, backslashes, control characters and surrogates are escaped. -/
def escapePoint (point : Nat) : String :=
  if point = '"'.toNat then "\\\""
  else if point = '\\'.toNat then "\\\\"
  else if point < 0x20 ∨ isSurrogate point then "\\u" ++ String.ofList (hexDigits 4 point)
  else String.singleton (Char.ofNat point)

def writeText (s : String) : String :=
  "\"" ++ (points s).foldl (fun written point => written ++ escapePoint point) "" ++ "\""

/-- A number, or the name of one that is not finite. -/
def writeFloat : Binary64 → String
  | .nan => "NaN"
  | .infinite negative => if negative then "-Infinity" else "Infinity"
  | x => x.display

mutual

def write : Json → String
  | .null => "null"
  | .bool b => if b then "true" else "false"
  | .int n => toString n
  | .float x => writeFloat x
  | .str s => writeText s
  | .arr items => "[" ++ ",".intercalate (writeItems items) ++ "]"
  | .obj fields => "\x7b" ++ ",".intercalate (writeFields fields) ++ "\x7d"

def writeItems : List Json → List String
  | [] => []
  | j :: rest => write j :: writeItems rest

def writeFields : List (String × Json) → List String
  | [] => []
  | (k, j) :: rest => (writeText k ++ ":" ++ write j) :: writeFields rest

end

end ReactiveContract.Json
