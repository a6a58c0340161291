import ReactiveContract.Abi.ValueType
import ReactiveContract.Document.Fault
import ReactiveContract.Quantity
/-! Rules that requests and bindings can break. -/
namespace ReactiveContract
open Text

namespace Violation

inductive Cause where
  | mappingMalformed (faults : Document.Faults)
  | mappingCount (callee : String) (inputs mappings : Nat)
  | tooManyTopics (most : Nat)
  | typeUnusable (fault : Abi.TypeFault)
  | typeMismatch (given expected : String)
  | nameMismatch (given expected : String)
  | topicOutOfRange (topic : Int)
  | topicClaimed (topic : Int) (mapping : Nat)
  | topicNotIndexed (event : String) (indexed : Nat) (topic : Int)
  | typeNotInTopic (type : String)
  | fieldUnknown (event field : String)
  | fieldIndexed (field : String)
  | fieldType (field actual expected : String)
  | expressionEmpty (what : String)
  | notOneExpression (what expression : String)
  | noBindings
  | contractNameReserved (name : String)
  | ownerWithoutPause
  | originPerBinding (bindings origins : Nat)
  | singleOrigin (origins : Nat)
  | noOrigin
  | argumentCount (binding mappings inputs : Nat) (callee : String)
  | recordExpected (record given : String)
  | documentFault (fault : Document.Fault)
  | notSubscribable (binding : Nat) (event : String)
  | notCallable (binding : Nat) (callee : String)
  | sourceEmpty
  | timeoutNotPositive (timeout : Quantity)
  | addressInvalid (shown : String)
  | reported (text : String)

/-- Where a fault stands, and what it is. -/
def documentMessage (fault : Document.Fault) : String :=
  let place := ".".intercalate (fault.path.map Document.Step.text)
  if place = "" then fault.cause.message else s!"{place}: {fault.cause.message}"

def Cause.message : Cause → String
  | .mappingMalformed _ => "malformed mapping: <details>"
  | .mappingCount callee inputs mappings =>
    s!"function '{callee}' takes {inputs} inputs but {mappings} mappings were given"
  | .tooManyTopics most => s!"at most {most} topic mappings are allowed per binding"
  | .typeUnusable fault => fault.message
  | .typeMismatch given expected =>
    s!"target type '{given}' does not match parameter type '{expected}'"
  | .nameMismatch given expected => s!"target parameter '{given}' does not match '{expected}'"
  | .topicOutOfRange topic => s!"topic index {topic} is out of range 1..3"
  | .topicClaimed topic mapping => s!"topic {topic} is already claimed by mapping #{mapping}"
  | .topicNotIndexed event indexed topic =>
    s!"event '{event}' has {indexed} indexed inputs, so topic_{topic} is not an indexed field"
  | .typeNotInTopic type => s!"type '{type}' cannot be read from a log topic"
  | .fieldUnknown event field => s!"event '{event}' has no field '{field}'"
  | .fieldIndexed field =>
    s!"field '{field}' is indexed and travels in the topics, not the data"
  | .fieldType field actual expected =>
    s!"field '{field}' is '{actual}', target expects '{expected}'"
  | .expressionEmpty what => s!"{what} is empty"
  | .notOneExpression what expression => s!"{what} {quoted expression} is not a single expression"
  | .noBindings => "at least one binding is required"
  | .contractNameReserved name => s!"contract name '{name}' is reserved"
  | .ownerWithoutPause => "an owner address only applies to pausable contracts"
  | .originPerBinding bindings origins =>
    s!"PROTOCOL_TO_PROTOCOL needs one origin address per binding ({bindings}), got {origins}"
  | .singleOrigin origins => s!"ORIGIN_TO_PROTOCOL needs exactly one origin address, got {origins}"
  | .noOrigin => "BLOCKCHAIN_WIDE does not take origin addresses"
  | .argumentCount binding mappings inputs callee =>
    s!"binding #{binding} has {mappings} mappings for {inputs} inputs of '{callee}'"
  | .recordExpected record given => s!"{record} must be an object, got {given}"
  | .documentFault fault => documentMessage fault
  | .notSubscribable binding event => s!"binding #{binding}: '{event}' is not a subscribable event"
  | .notCallable binding callee =>
    s!"binding #{binding}: '{callee}' is not a state-changing function"
  | .sourceEmpty => "source text is empty"
  | .timeoutNotPositive timeout => s!"timeout must be positive, got {timeout.display}"
  | .addressInvalid shown => s!"Invalid contract address: {shown}"
  | .reported text => text

end Violation

/-- A broken rule, with the mapping and the field that it concerns. -/
structure Violation where
  cause : Violation.Cause
  index : Option Int := none
  field : Option String := none

namespace Violation

def message (v : Violation) : String :=
  match v.index with
  | some i => s!"mapping #{i}: {v.cause.message}"
  | none => v.cause.message

/-- The first of some faults of a document, as a broken rule. -/
def ofFaults (faults : Document.Faults) : Violation :=
  { cause := .documentFault faults.first
    field := faults.first.path.head?.map Document.Step.text }

end Violation
end ReactiveContract
