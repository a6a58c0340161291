import ReactiveContract.Abi.TypeExpr
import ReactiveContract.Json.Display
/-! The types of values that reactive contracts handle, each with one canonical spelling. -/
namespace ReactiveContract.Abi

inductive ValueType where
  | address
  | bool (suffix : Suffix)
  | string
  | bytes (size : Option Nat)
  | uint (bits : Nat)
  | int (bits : Nat)
  deriving DecidableEq, Repr, Inhabited

/-- Why a text is no type of a value. -/
inductive TypeFault where
  | missing (given : Json)
  | unrecognized (text : String)
  | composite (text : String)
  | unsupported (text : String)

namespace TypeFault

def message : TypeFault → String
  | .missing given => s!"Missing parameter type: {given.quoted}"
  | .unrecognized text => s!"Unrecognized ABI type '{text}'"
  | .composite text =>
    s!"Unsupported ABI type '{text}': arrays and tuples are not supported"
  | .unsupported text => s!"Unsupported ABI type '{text}'"

end TypeFault

namespace ValueType

/-- The type of a name and its suffix, both spelled out. -/
def ofParts? (base : String) (suffix : Suffix) : Option ValueType :=
  match base, suffix with
  | "address", .none => some .address
  | "bool", suffix => some (.bool suffix)
  | "string", .none => some .string
  | "bytes", .none => some (.bytes none)
  | "bytes", .width n => some (.bytes (some n))
  | "uint", .width n => some (.uint n)
  | "int", .width n => some (.int n)
  | _, _ => none

/-- Arrays and tuples are refused, and so is every name that is not listed above. -/
def ofExpr (text : String) : TypeExpr → Except TypeFault ValueType
  | .tuple _ _ => .error (.composite text)
  | .basic _ _ (_ :: _) => .error (.composite text)
  | .basic base suffix [] =>
    let (base, suffix) := TypeExpr.spelledOut base suffix
    match ofParts? base suffix with
    | some t => .ok t
    | none => .error (.unsupported text)

/-- Reads a nonempty text as the type of a value. -/
def read (text : String) : Except TypeFault ValueType :=
  match TypeExpr.read? text with
  | some e => if e.isValid then ofExpr text e else .error (.unrecognized text)
  | none => .error (.unrecognized text)

/-- Only a nonempty text can name a type. -/
def ofJson : Json → Except TypeFault ValueType
  | .str text => if text = "" then .error (.missing (.str text)) else read text
  | given => .error (.missing given)

def ofText (text : String) : Except TypeFault ValueType := ofJson (.str text)

def ofText? (text : Option String) : Except TypeFault ValueType :=
  ofJson (match text with
    | some text => .str text
    | none => .null)

def base : ValueType → String
  | .address => "address"
  | .bool _ => "bool"
  | .string => "string"
  | .bytes _ => "bytes"
  | .uint _ => "uint"
  | .int _ => "int"

def suffix : ValueType → Suffix
  | .address | .string => .none
  | .bool suffix => suffix
  | .bytes none => .none
  | .bytes (some n) => .width n
  | .uint n | .int n => .width n

end ValueType

def Suffix.text : Suffix → String
  | .none => ""
  | .width n => toString n
  | .scaled m n => s!"{m}x{n}"

/-- The canonical spelling. -/
def ValueType.text (t : ValueType) : String := t.base ++ t.suffix.text

end ReactiveContract.Abi
