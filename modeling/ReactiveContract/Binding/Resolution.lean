import ReactiveContract.Address
import ReactiveContract.Binding.Basic
import ReactiveContract.Binding.Expression
import ReactiveContract.Binding.Topic
/-! Checking the mappings of a binding against its event and its function. -/
namespace ReactiveContract
open Abi

namespace Binding

/-- A log has three topics beside the one that names its event. -/
def mostTopics : Nat := 3

def violation (index : Nat) (field : String) (cause : Violation.Cause) : Violation :=
  { cause, index := some index, field := some field }

/-- The type of a mapping, which has to be that of the input. -/
def checkType (index : Nat) (m : Mapping) (input : CalleeInput) : Except Violation ValueType :=
  match ValueType.ofText m.type with
  | .error fault => .error (violation index "targetType" (.typeUnusable fault))
  | .ok t =>
    if t.text = input.type then .ok t
    else .error (violation index "targetType" (.typeMismatch m.type input.type))

/-- A mapping and its input have one name, unless one of them has none. -/
def checkName (index : Nat) (m : Mapping) (input : CalleeInput) : Except Violation Unit :=
  if input.name ≠ "" ∧ m.target ≠ "" ∧ m.target ≠ input.name then
    .error (violation index "targetParamName" (.nameMismatch m.target input.name))
  else .ok ()

/-- A topic from one to three that the event fills, that no earlier mapping claims, and that can
hold the type. -/
def checkTopic (event : Event) (claimed : List (Int × Nat)) (index : Nat) (t : ValueType)
    (topic : Int) : Except Violation Unit :=
  let fault (cause : Violation.Cause) : Except Violation Unit :=
    .error (violation index "topicIndex" cause)
  if topic < 1 ∨ 3 < topic then fault (.topicOutOfRange topic)
  else match claimed.lookup topic with
    | some earlier => fault (.topicClaimed topic earlier)
    | none =>
      if event.indexedInputs.length < topic then
        fault (.topicNotIndexed event.signature event.indexedInputs.length topic)
      else if t.topicExpr?.isNone then
        .error (violation index "targetType" (.typeNotInTopic t.text))
      else .ok ()

/-- The first input of that name travels in the data and has the type. -/
def checkField (event : Event) (index : Nat) (t : ValueType) (field : String) :
    Except Violation Unit :=
  let fault (cause : Violation.Cause) : Except Violation Unit :=
    .error (violation index "fieldName" cause)
  match event.inputs.find? fun p => field ≠ "" && p.name = field with
  | none => fault (.fieldUnknown event.name field)
  | some p =>
    if p.indexed then fault (.fieldIndexed field)
    else if p.type ≠ t.text then fault (.fieldType field p.type t.text)
    else .ok ()

/-- A literal is one expression; that of an address is checksummed. -/
def resolveLiteral (index : Nat) (t : ValueType) (literal : String) : Except Violation String :=
  match Expression.check literal "fixed literal" with
  | .error cause => .error (violation index "value" cause)
  | .ok literal =>
    if t = .address then
      match Address.read? literal with
      | some a => .ok a.text
      | none => .ok literal
    else .ok literal

/-- The source of an argument in its final form. -/
def resolveSource (event : Event) (claimed : List (Int × Nat)) (index : Nat) (t : ValueType) :
    Source → Except Violation Source
  | .fixed literal => (resolveLiteral index t literal).map .fixed
  | .topic topic => (checkTopic event claimed index t topic).map fun _ => .topic topic
  | .data field => (checkField event index t field).map fun _ => .data field
  | .unbound _ => .ok (.unbound (some t.zero))

/-- One mapping in its final form. -/
def resolveMapping (event : Event) (claimed : List (Int × Nat)) (index : Nat) (m : Mapping)
    (input : CalleeInput) : Except Violation Mapping := do
  let t ← checkType index m input
  checkName index m input
  let source ← resolveSource event claimed index t m.source
  return { target := if input.name ≠ "" then input.name else m.target, type := t.text, source }

/-- The topics claimed after a mapping. -/
def claims (claimed : List (Int × Nat)) (index : Nat) (m : Mapping) : List (Int × Nat) :=
  match m.source with
  | .topic topic => (topic, index) :: claimed
  | _ => claimed

/-- The mappings from an index on, with their inputs. -/
def resolveFrom (event : Event) :
    List (Int × Nat) → Nat → List Mapping → List CalleeInput → Except Violation (List Mapping)
  | claimed, index, m :: ms, input :: inputs => do
    let resolved ← resolveMapping event claimed index m input
    return resolved :: (← resolveFrom event (claims claimed index m) (index + 1) ms inputs)
  | _, _, _, _ => .ok []

def isTopic (m : Mapping) : Bool :=
  match m.source with
  | .topic _ => true
  | _ => false

/-- At most three mappings read topics. -/
def checkTopicCount (mappings : List Mapping) : Except Violation Unit :=
  match (mappings.filter isTopic)[mostTopics]? with
  | none => .ok ()
  | some m => .error (violation (mappings.idxOf m) "topicIndex" (.tooManyTopics mostTopics))

/-- A guard, if any, is one expression. -/
def resolveCondition : Option String → Except Violation (Option String)
  | none => .ok none
  | some condition =>
    match Expression.check condition "condition" with
    | .ok condition => .ok (some condition)
    | .error cause => .error { cause, field := some "condition" }

/-- Checks the mappings of an event to a function in order, then the guard. -/
def resolve (event : Event) (callee : Callee) (mappings : List Mapping)
    (condition : Option String) : Except Violation Binding := do
  if mappings.length ≠ callee.inputs.length then
    throw {
      cause := .mappingCount callee.signature callee.inputs.length mappings.length
      field := some "inputMappings" }
  checkTopicCount mappings
  let resolved ← resolveFrom event [] 0 mappings callee.inputs
  return { event, callee, mappings := resolved, condition := (← resolveCondition condition) }

/-- Reads mappings from an index on. -/
def readMappings : Nat → List Json → Except Violation (List Mapping)
  | _, [] => .ok []
  | index, j :: rest =>
    match Mapping.ofJson j with
    | .rejected faults => .error { cause := .mappingMalformed faults, index := some index }
    | .ok m => (readMappings (index + 1) rest).map (m :: ·)

end Binding
end ReactiveContract
