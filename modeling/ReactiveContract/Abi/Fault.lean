import ReactiveContract.Abi.ValueType
import ReactiveContract.Document.Fault
import ReactiveContract.Json.Bytes
import ReactiveContract.Text.CodePoint
/-! Why an interface cannot be used. -/
namespace ReactiveContract.Abi

inductive Fault where
  | type (fault : TypeFault)
  | eventInput (event : String) (position : Nat) (fault : TypeFault)
  | calleeInput (callee : String) (position : Nat) (fault : TypeFault)
  | entryNotObject (position : Int)
  | entryMalformed (position : Int) (faults : Document.Faults)
  | kindMissing (position : Int) (name : String)
  | kindUnknown (position : Int) (kind : String)
  | notArray
  | notJson (error : Json.ReadError)
  | resultNotJson (result : String)
  | formUnknown
  | unverified (address detail : String)
  | reported (text : String)

/-- How much of an explorer's answer a message shows. -/
def excerptLength : Nat := 80

def Fault.message : Fault → String
  | .type fault => fault.message
  | .eventInput event position fault => s!"Event '{event}' input #{position}: {fault.message}"
  | .calleeInput callee position fault =>
    s!"Function '{callee}' input #{position}: {fault.message}"
  | .entryNotObject position => s!"ABI entry #{position} is not an object"
  | .entryMalformed position _ => s!"Malformed ABI entry #{position}: <details>"
  | .kindMissing position name =>
    let shown := if name = "" then "unnamed" else name
    s!"ABI entry #{position} ({shown}) has no 'type' field"
  | .kindUnknown position kind => s!"ABI entry #{position} has unrecognized type '{kind}'"
  | .notArray => "ABI must be an array of entries"
  | .notJson error => s!"ABI is not valid JSON: {error.message}"
  | .resultNotJson result =>
    s!"Explorer result is not an ABI: {Text.takePoints excerptLength result}"
  | .formUnknown => "Unrecognized ABI format"
  | .unverified address detail => s!"No verified ABI for {address}: {detail}"
  | .reported text => text

end ReactiveContract.Abi
