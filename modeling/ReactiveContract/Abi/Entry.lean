import ReactiveContract.Document.Record
/-! Entries of contract interfaces as explorers and compilers publish them. -/
namespace ReactiveContract.Abi
open Document

structure Param where
  name : String := ""
  type : Option String := none
  indexed : Bool := false
  deriving DecidableEq, Repr, Inhabited

namespace Param

def nameKey : Key := { name := "name" }
def typeKey : Key := { name := "type" }
def indexedKey : Key := { name := "indexed" }

def keys : List Key := [nameKey, typeKey, indexedKey]

def ofFields (fields : Fields) : Checked Param :=
  Param.mk
    <$> nameKey.optional "" text fields
    <*> typeKey.optional none (nullable text) fields
    <*> indexedKey.optional false truth fields

def ofJson (j : Json) : Checked Param := record "AbiParam" ofFields j

def toFields (p : Param) : Fields := [
  (nameKey.name, .str p.name),
  (typeKey.name, .ofOption .str p.type),
  (indexedKey.name, .bool p.indexed)]

end Param

/-- Old interfaces carry the flags `constant` and `payable` in place of `stateMutability`. -/
structure Entry where
  kind : Option String := none
  name : String := ""
  inputs : List Param := []
  stateMutability : Option String := none
  anonymous : Bool := false
  constant : Option Bool := none
  payable : Option Bool := none
  deriving DecidableEq, Repr, Inhabited

namespace Entry

def kindKey : Key := { name := "kind", alias? := some "type" }
def nameKey : Key := { name := "name" }
def inputsKey : Key := { name := "inputs" }
def stateMutabilityKey : Key := { name := "stateMutability" }
def anonymousKey : Key := { name := "anonymous" }
def constantKey : Key := { name := "constant" }
def payableKey : Key := { name := "payable" }

def keys : List Key :=
  [kindKey, nameKey, inputsKey, stateMutabilityKey, anonymousKey, constantKey, payableKey]

def ofFields (fields : Fields) : Checked Entry :=
  Entry.mk
    <$> kindKey.optional none (nullable text) fields
    <*> nameKey.optional "" text fields
    <*> inputsKey.optional [] (list Param.ofJson) fields
    <*> stateMutabilityKey.optional none (nullable text) fields
    <*> anonymousKey.optional false truth fields
    <*> constantKey.optional none (nullable truth) fields
    <*> payableKey.optional none (nullable truth) fields

def ofJson (j : Json) : Checked Entry := record "AbiEntry" ofFields j

def toFields (e : Entry) : Fields := [
  (kindKey.name, .ofOption .str e.kind),
  (nameKey.name, .str e.name),
  (inputsKey.name, .arr (e.inputs.map fun p => .obj p.toFields)),
  (stateMutabilityKey.name, .ofOption .str e.stateMutability),
  (anonymousKey.name, .bool e.anonymous),
  (constantKey.name, .ofOption .bool e.constant),
  (payableKey.name, .ofOption .bool e.payable)]

/-- What a function may do to the state; the old flags count when nothing else is declared. -/
def mutability (e : Entry) : String :=
  match e.stateMutability with
  | some declared =>
    if declared ≠ "" then declared else legacyMutability e
  | none => legacyMutability e
where
  legacyMutability (e : Entry) : String :=
    if e.constant = some true then "view"
    else if e.payable = some true then "payable"
    else "nonpayable"

def isReadOnly (e : Entry) : Bool := e.mutability = "view" || e.mutability = "pure"

end Entry
end ReactiveContract.Abi
