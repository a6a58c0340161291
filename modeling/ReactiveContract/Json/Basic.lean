import ReactiveContract.Decimal.Shortest
/-! JSON values whose objects keep the order of their keys. -/
namespace ReactiveContract

inductive Json where
  | null
  | bool (b : Bool)
  | int (n : Int)
  | float (x : Binary64)
  | str (s : String)
  | arr (items : List Json)
  | obj (fields : List (String × Json))
  deriving Inhabited

/-- The fields of an object, in order, with distinct keys. -/
abbrev Fields := List (String × Json)

namespace Fields

def get? (fields : Fields) (key : String) : Option Json := fields.lookup key

def contains (fields : Fields) (key : String) : Bool := (get? fields key).isSome

/-- Replaces the value of a key in place, or appends the key. -/
def insert (key : String) (value : Json) : Fields → Fields
  | [] => [(key, value)]
  | (k, v) :: rest => if k = key then (k, value) :: rest else (k, v) :: insert key value rest

def erase (fields : Fields) (key : String) : Fields := fields.filter fun f => f.1 != key

end Fields

namespace Json

/-- The value of a key of an object; anything else has no keys. -/
def get? (j : Json) (key : String) : Option Json :=
  match j with
  | .obj fields => Fields.get? fields key
  | _ => none

def texts (items : List String) : Json := .arr (items.map .str)

/-- Null stands for nothing. -/
def ofOption (write : α → Json) : Option α → Json
  | none => .null
  | some a => write a

/-- Neither null, false, zero nor empty. -/
def isTruthy : Json → Bool
  | .null => false
  | .bool b => b
  | .int n => n != 0
  | .float (.finite _ m _) => m != 0
  | .float _ => true
  | .str s => s != ""
  | .arr items => !items.isEmpty
  | .obj fields => !fields.isEmpty

end Json
end ReactiveContract
