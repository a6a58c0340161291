import ReactiveContract.Address
import ReactiveContract.Contract.Topology
/-! What a contract is generated for: its chains, its addresses and its name. -/
namespace ReactiveContract
open Document

structure Settings where
  topology : Topology
  originChainId : Nat
  destinationChainId : Nat
  origins : List Address := []
  destination : Address
  pausable : Bool := false
  owner : Option Address := none
  contractName : String := "ReactiveSmartContract"
  callbackGasLimit : Nat := 1000000
  applicable : List Address := []
  deriving DecidableEq, Repr, Inhabited

namespace Settings

def topologyKey : Key := { name := "topology" }
def originChainIdKey : Key := { name := "origin_chain_id", alias? := some "originChainId" }
def destinationChainIdKey : Key :=
  { name := "destination_chain_id", alias? := some "destinationChainId" }
def originsKey : Key := { name := "origin_addresses", alias? := some "originAddresses" }
def destinationKey : Key :=
  { name := "destination_address", alias? := some "destinationAddress" }
def pausableKey : Key := { name := "pausable" }
def ownerKey : Key := { name := "owner_address", alias? := some "ownerAddress" }
def contractNameKey : Key := { name := "contract_name", alias? := some "contractName" }
def callbackGasLimitKey : Key :=
  { name := "callback_gas_limit", alias? := some "callbackGasLimit" }
def applicableKey : Key :=
  { name := "applicable_addresses", alias? := some "applicableAddresses" }

def keys : List Key :=
  [topologyKey, originChainIdKey, destinationChainIdKey, originsKey, destinationKey, pausableKey,
    ownerKey, contractNameKey, callbackGasLimitKey, applicableKey]

/-- The key under which a single origin may be given. -/
def singleOrigin : String := "originAddress"

/-- Replaces a single origin by a list, unless there is one. -/
def expandSingleOrigin (fields : Fields) : Fields :=
  match Fields.get? fields singleOrigin with
  | none => fields
  | some origin =>
    let others := Fields.erase fields singleOrigin
    if (originsKey.find? others).isSome then others
    else
      let origins := match origin with
        | .null => []
        | .str text => if text = "" then [] else [origin]
        | _ => [origin]
      Fields.insert originsKey.wireName (.arr origins) others

/-- A positive integer. -/
def positive (j : Json) : Checked Nat := ((integer j).refine (above 0)).map Int.toNat

def gasLimitBound : Nat := Nat.pow 2 64

/-- A positive integer of 64 bits. -/
def gasLimit (j : Json) : Checked Nat :=
  (((integer j).refine (above 0)).refine (below gasLimitBound)).map Int.toNat

/-- An address in a given role. -/
def addressOfText (role text : String) : Except Cause Address :=
  match Address.read? text with
  | some a => .ok a
  | none => .error (.addressInvalid role text)

/-- The first of several texts that is no address is the one at fault. -/
def addressesOfTexts (role : String) : List String → Except Cause (List Address)
  | [] => .ok []
  | text :: rest => do
    let a ← addressOfText role text
    return a :: (← addressesOfTexts role rest)

def addresses (role : String) (j : Json) : Checked (List Address) :=
  (list text j).refine (addressesOfTexts role)

def address (role : String) (j : Json) : Checked Address :=
  (text j).refine (addressOfText role)

def isNameStart (c : Char) : Bool := c.isAlpha || c = '_'

/-- A letter or underscore, then letters, digits and underscores, all of them ASCII. -/
def isIdentifier (name : String) : Bool :=
  match name.toList with
  | [] => false
  | c :: rest => isNameStart c && rest.all fun c => isNameStart c || c.isDigit

def identifierOfText (name : String) : Except Cause String :=
  if isIdentifier name then .ok name else .error (.contractNameInvalid name)

def identifier (j : Json) : Checked String := (text j).refine identifierOfText

def originRole : String := "origin contract address"
def destinationRole : String := "destination contract address"
def ownerRole : String := "owner address"
def applicableRole : String := "applicable address"

def ofFields (fields : Fields) : Checked Settings :=
  Settings.mk
    <$> topologyKey.required Topology.ofJson fields
    <*> originChainIdKey.required positive fields
    <*> destinationChainIdKey.required positive fields
    <*> originsKey.optional [] (addresses originRole) fields
    <*> destinationKey.required (address destinationRole) fields
    <*> pausableKey.optional false truth fields
    <*> ownerKey.optional none (nullable (address ownerRole)) fields
    <*> contractNameKey.optional "ReactiveSmartContract" identifier fields
    <*> callbackGasLimitKey.optional 1000000 gasLimit fields
    <*> applicableKey.optional [] (addresses applicableRole) fields

/-- The fields under their own names, as they could be read again. -/
def toFields (s : Settings) : Fields := [
  (topologyKey.name, .str s.topology.text),
  (originChainIdKey.name, .int s.originChainId),
  (destinationChainIdKey.name, .int s.destinationChainId),
  (originsKey.name, .texts (s.origins.map Address.text)),
  (destinationKey.name, .str s.destination.text),
  (pausableKey.name, .bool s.pausable),
  (ownerKey.name, .ofOption (fun a => .str a.text) s.owner),
  (contractNameKey.name, .str s.contractName),
  (callbackGasLimitKey.name, .int s.callbackGasLimit),
  (applicableKey.name, .texts (s.applicable.map Address.text))]

end Settings
end ReactiveContract
