import ReactiveContract.Abi.ValueType
import ReactiveContract.Document.Record
import ReactiveContract.Keccak256
import ReactiveContract.Text.Hexadecimal
/-! Events to subscribe to and functions to call, with their signatures. -/
namespace ReactiveContract.Abi
open Document Text

/-- An input of an event; an indexed one travels in the topics of a log. -/
structure EventInput where
  name : String
  type : String
  indexed : Bool
  position : Int
  deriving DecidableEq, Repr, Inhabited

structure Event where
  name : String
  inputs : List EventInput
  signature : String
  topic0 : String
  deriving DecidableEq, Repr, Inhabited

namespace Event

/-- The inputs in the topics: the `k`-th of them is topic `k`. -/
def indexedInputs (e : Event) : List EventInput := e.inputs.filter (·.indexed)

/-- The inputs in the data of a log, in layout order. -/
def dataInputs (e : Event) : List EventInput := e.inputs.filter (!·.indexed)

end Event

structure CalleeInput where
  name : String
  type : String
  position : Int
  deriving DecidableEq, Repr, Inhabited

/-- A function of the destination contract. -/
structure Callee where
  name : String
  inputs : List CalleeInput
  signature : String
  mutability : String
  deriving DecidableEq, Repr, Inhabited

/-- A name and the canonical types of the inputs. -/
def signatureOf (name : String) (types : List String) : String :=
  name ++ "(" ++ ",".intercalate types ++ ")"

/-- The topic under which the logs of an event are filed, from the bytes of its signature. -/
def topicOf (message : List UInt8) : String :=
  "0x" ++ String.ofList ((nibbles (Keccak256.hash message)).map hexDigit)

namespace EventInput

def keys : List Key :=
  [{ name := "name" }, { name := "type" }, { name := "indexed" }, { name := "position" }]

def ofFields (fields : Fields) : Checked EventInput :=
  EventInput.mk
    <$> Key.required { name := "name" } text fields
    <*> Key.required { name := "type" } text fields
    <*> Key.required { name := "indexed" } truth fields
    <*> Key.required { name := "position" } integer fields

def ofJson (j : Json) : Checked EventInput := record "EventParam" ofFields j

def toFields (p : EventInput) : Fields :=
  [("name", .str p.name), ("type", .str p.type), ("indexed", .bool p.indexed),
    ("position", .int p.position)]

end EventInput

namespace Event

def keys : List Key :=
  [{ name := "name" }, { name := "inputs" }, { name := "signature" }, { name := "topic0" }]

def ofFields (fields : Fields) : Checked Event :=
  Event.mk
    <$> Key.required { name := "name" } text fields
    <*> Key.required { name := "inputs" } (list EventInput.ofJson) fields
    <*> Key.required { name := "signature" } text fields
    <*> Key.required { name := "topic0" } text fields

def ofJson (j : Json) : Checked Event := record "EventInfo" ofFields j

def toFields (e : Event) : Fields :=
  [("name", .str e.name), ("inputs", .arr (e.inputs.map fun p => .obj p.toFields)),
    ("signature", .str e.signature), ("topic0", .str e.topic0)]

end Event

namespace CalleeInput

def keys : List Key := [{ name := "name" }, { name := "type" }, { name := "position" }]

def ofFields (fields : Fields) : Checked CalleeInput :=
  CalleeInput.mk
    <$> Key.required { name := "name" } text fields
    <*> Key.required { name := "type" } text fields
    <*> Key.required { name := "position" } integer fields

def ofJson (j : Json) : Checked CalleeInput := record "FunctionParam" ofFields j

def toFields (p : CalleeInput) : Fields :=
  [("name", .str p.name), ("type", .str p.type), ("position", .int p.position)]

end CalleeInput

namespace Callee

def keys : List Key :=
  [{ name := "name" }, { name := "inputs" }, { name := "signature" },
   { name := "stateMutability" }]

def ofFields (fields : Fields) : Checked Callee :=
  Callee.mk
    <$> Key.required { name := "name" } text fields
    <*> Key.required { name := "inputs" } (list CalleeInput.ofJson) fields
    <*> Key.required { name := "signature" } text fields
    <*> Key.optional { name := "stateMutability" } "nonpayable" text fields

def ofJson (j : Json) : Checked Callee := record "FunctionInfo" ofFields j

def toFields (c : Callee) : Fields :=
  [("name", .str c.name), ("inputs", .arr (c.inputs.map fun p => .obj p.toFields)),
    ("signature", .str c.signature), ("stateMutability", .str c.mutability)]

end Callee
end ReactiveContract.Abi
