import ReactiveContract.Json.Basic
import ReactiveContract.Text.Quoted
/-! JSON values as messages show them. -/
namespace ReactiveContract.Json
open Text

mutual

/-- A value with its texts in quotes. -/
def quoted : Json → String
  | .null => "None"
  | .bool b => if b then "True" else "False"
  | .int n => toString n
  | .float x => x.display
  | .str s => Text.quoted s
  | .arr items => "[" ++ ", ".intercalate (quotedItems items) ++ "]"
  | .obj fields => "\x7b" ++ ", ".intercalate (quotedFields fields) ++ "\x7d"

def quotedItems : List Json → List String
  | [] => []
  | j :: rest => quoted j :: quotedItems rest

def quotedFields : List (String × Json) → List String
  | [] => []
  | (k, j) :: rest => (Text.quoted k ++ ": " ++ quoted j) :: quotedFields rest

end

/-- A value in running text: a text stands for itself. -/
def display : Json → String
  | .str s => s
  | j => j.quoted

/-- What kind of value something is, as messages name it. -/
def kind : Json → String
  | .null => "NoneType"
  | .bool _ => "bool"
  | .int _ => "int"
  | .float _ => "float"
  | .str _ => "str"
  | .arr _ => "list"
  | .obj _ => "dict"

end ReactiveContract.Json
