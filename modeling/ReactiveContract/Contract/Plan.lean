import ReactiveContract.Binding.Topic
import ReactiveContract.Contract.Origins
import ReactiveContract.Solidity.Word
import ReactiveContract.Traced
/-! Plans of contracts: every fragment of a contract, before it is written out. -/
namespace ReactiveContract
open Solidity

structure Plan where
  contractName : String
  baseContract : String
  originChainId : Nat
  destinationChainId : Nat
  destination : Address
  callbackGasLimit : Nat
  originConstants : List Constant
  eventConstants : List Constant
  subscriptions : List Subscription
  dispatch : Dispatch
  reactParameters : ReactParameters
  pausableTable : Option SubscriptionTable
  owner : Option Address
  destinationSignatures : List String
  allowList : Option AllowList
  deriving DecidableEq, Repr, Inhabited

namespace Plan

def eventConstantName (index : Nat) : String := s!"EVENT_{index}_TOPIC_0"

/-- The local variable that holds a field of the data. -/
def localName (field : String) : String := "evt_" ++ field

/-- What a guard can see of a log beside its data. -/
def guardParameters : List String :=
  ["chain_id", "_contract", "topic_1", "topic_2", "topic_3", "block_number"]

/-- An empty guard is none. -/
def guard? (b : Binding) : Option String := b.condition.filter (· ≠ "")

/-- The expression of an argument. -/
def argument (m : Mapping) : Except Failure String :=
  match m.source with
  | .topic index => topicExpression m.type index
  | .data field => .ok (localName field)
  | .fixed literal => .ok literal
  | .unbound (some zero) => if zero ≠ "" then .ok zero else zeroValue m.type
  | .unbound none => zeroValue m.type

def arguments : List Mapping → Except Failure (List String)
  | [] => .ok []
  | m :: rest => do
    let a ← argument m
    return a :: (← arguments rest)

/-- The fields of the data that a binding needs: those its arguments read, and with a guard every
field that has a name. -/
def neededFields (b : Binding) : List String :=
  let read := b.mappings.filterMap fun m =>
    match m.source with
    | .data field => some field
    | _ => none
  let seen := match guard? b with
    | some _ => (b.event.dataInputs.map (·.name)).filter (· ≠ "")
    | none => []
  read ++ seen

/-- The parameters of the reaction that a binding needs. -/
def usedParameters (b : Binding) : List String :=
  let topics := b.mappings.filterMap fun m =>
    match m.source with
    | .topic index => some s!"topic_{index}"
    | _ => none
  let guarded := match guard? b with
    | some _ => guardParameters
    | none => []
  let data := if neededFields b = [] then [] else ["data"]
  topics ++ guarded ++ data

/-- Takes the data apart if a field of it is needed. -/
def decoding (b : Binding) : List Statement :=
  let needed := neededFields b
  if needed = [] then []
  else [.decode ⟨b.event.dataInputs.map fun p =>
    (p.type, if p.name ∈ needed then some (localName p.name) else none)⟩]

def guarding (b : Binding) : List Statement :=
  match guard? b with
  | some condition => [.require ⟨condition, "Condition not met"⟩]
  | none => []

/-- The branch for the logs of a binding's event. -/
def branch (index : Nat) (b : Binding) : Except Failure Branch := do
  if b.mappings.length ≠ b.callee.inputs.length then
    throw (.violation {
      cause := .argumentCount index b.mappings.length b.callee.inputs.length b.callee.signature
      field := some "bindings" })
  let arguments ← arguments b.mappings
  return {
    topicConstant := eventConstantName index
    statements := decoding b ++ guarding b ++ [.emit ⟨b.callee.signature, arguments⟩] }

/-- The first binding whose event has the same topic. -/
def firstWithTopic (bindings : List Binding) (b : Binding) : Nat :=
  bindings.findIdx fun other => other.event.topic0 = b.event.topic0

/-- Notes that a branch cannot be reached because an earlier one takes its logs. -/
def noteShared (bindings : List Binding) (index : Nat) (b : Binding) : Traced Unit :=
  let first := firstWithTopic bindings b
  if first = index then pure ()
  else Traced.note (.topicShared first index b.event.topic0 b.event.signature)

/-- The branches of some bindings from an index on; all bindings are given first. -/
def branchesFrom (bindings : List Binding) : Nat → List Binding → Traced (List Branch)
  | _, [] => pure []
  | index, b :: rest => do
    noteShared bindings index b
    let branch ← Traced.ofExcept (branch index b)
    Traced.note (.bindingPlanned index b.event.signature b.callee.signature)
    return branch :: (← branchesFrom bindings (index + 1) rest)

def eventConstantsOf (bindings : List Binding) : List Constant :=
  bindings.zipIdx.map fun (b, i) => ⟨"uint256", eventConstantName i, b.event.topic0⟩

/-- One subscription for each binding, with the origin that it listens to. -/
def subscriptionsOf (criteria : List String) : List Subscription :=
  criteria.zipIdx.map fun (contract, i) =>
    { index := i
      criteria := {
        chainId := "ORIGIN_CHAIN_ID", contract, topic0 := eventConstantName i } }

/-- The constants of an address allow-list hold each address once. -/
def allowList? (applicable : List Address) : Option AllowList :=
  if applicable = [] then none else some ⟨applicable.eraseDups.map Address.text⟩

/-- The rules that a plan needs beside those on origins and bindings. -/
def check (spec : Spec) : Except Violation Unit :=
  if spec.bindings = [] then .error { cause := .noBindings, field := some "bindings" }
  else if isReserved spec.settings.contractName then
    .error {
      cause := .contractNameReserved spec.settings.contractName
      field := some "contractName" }
  else if spec.settings.owner.isSome && !spec.settings.pausable then
    .error { cause := .ownerWithoutPause, field := some "ownerAddress" }
  else .ok ()

def baseOf (pausable : Bool) : String :=
  if pausable then "AbstractPausableReactive" else "AbstractReactive"

/-- The plan made of the origins and the branches of a description. -/
def assemble (spec : Spec) (origins : Origins) (branches : List Branch) : Plan :=
  let settings := spec.settings
  let subscriptions := subscriptionsOf origins.criteria
  let allowList := allowList? settings.applicable
  { contractName := settings.contractName
    baseContract := baseOf settings.pausable
    originChainId := settings.originChainId
    destinationChainId := settings.destinationChainId
    destination := settings.destination
    callbackGasLimit := settings.callbackGasLimit
    originConstants := origins.constants
    eventConstants := eventConstantsOf spec.bindings
    subscriptions
    dispatch := ⟨branches⟩
    reactParameters := ⟨"topic_0" :: spec.bindings.flatMap usedParameters
      ++ (if allowList.isSome then ["_contract"] else [])⟩
    pausableTable := if settings.pausable then some ⟨subscriptions.map (·.criteria)⟩ else none
    owner := settings.owner
    destinationSignatures := spec.bindings.map (·.callee.signature)
    allowList }

/-- Plans the contract of a description. -/
def ofSpec (spec : Spec) : Traced Plan := do
  Traced.ofExcept ((check spec).mapError .violation)
  let origins ← Traced.ofExcept ((Origins.ofSpec spec).mapError .violation)
  let branches ← branchesFrom spec.bindings 0 spec.bindings
  return assemble spec origins branches

end Plan
end ReactiveContract
