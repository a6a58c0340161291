import ReactiveContract.Text.Quoted
/-! What can be wrong with a document, and where. -/
namespace ReactiveContract.Document
open Text

/-- One step into a document: a key of an object or an index of a list. -/
inductive Step where
  | key (name : String)
  | index (i : Nat)
  deriving DecidableEq, Repr

inductive Cause where
  | missing
  | textExpected
  | textUnencodable
  | textEmpty
  | integerExpected
  | integerUnreadable
  | integerTooLong
  | integerFractional
  | integerInfinite
  | notAbove (bound : Int)
  | notBelow (bound : Int)
  | truthExpected
  | truthUnreadable
  | listExpected
  | objectExpected
  | recordExpected (record : String)
  | wordExpected (words : List String)
  | variantExpected
  | tagMissing (tag : String)
  | tagUnknown (tag shown : String) (known : List String)
  | topologyExpected
  | topologyUnknown (text : String)
  | addressInvalid (role text : String)
  | contractNameInvalid (text : String)
  deriving DecidableEq, Repr

structure Fault where
  path : List Step
  cause : Cause
  deriving DecidableEq, Repr

/-- The faults of a document, in the order of its fields. -/
structure Faults where
  first : Fault
  rest : List Fault
  deriving DecidableEq, Repr

namespace Step

def text : Step → String
  | .key name => name
  | .index i => toString i

end Step

namespace Faults

def toList (fs : Faults) : List Fault := fs.first :: fs.rest

def append (a b : Faults) : Faults := ⟨a.first, a.rest ++ b.toList⟩

def single (cause : Cause) : Faults := ⟨⟨[], cause⟩, []⟩

/-- The same faults, seen from one step further out. -/
def under (step : Step) (fs : Faults) : Faults :=
  let lift (f : Fault) : Fault := ⟨step :: f.path, f.cause⟩
  ⟨lift fs.first, fs.rest.map lift⟩

end Faults

namespace Cause

/-- A short word for the kind of fault. -/
def code : Cause → String
  | .missing => "missing"
  | .textExpected => "string_type"
  | .textUnencodable => "string_unicode"
  | .textEmpty => "string_too_short"
  | .integerExpected => "int_type"
  | .integerUnreadable => "int_parsing"
  | .integerTooLong => "int_parsing_size"
  | .integerFractional => "int_from_float"
  | .integerInfinite => "finite_number"
  | .notAbove _ => "greater_than"
  | .notBelow _ => "less_than"
  | .truthExpected => "bool_type"
  | .truthUnreadable => "bool_parsing"
  | .listExpected => "list_type"
  | .objectExpected => "dict_type"
  | .recordExpected _ => "model_type"
  | .wordExpected _ => "literal_error"
  | .variantExpected => "model_attributes_type"
  | .tagMissing _ => "union_tag_not_found"
  | .tagUnknown _ _ _ => "union_tag_invalid"
  | .topologyExpected => "enum"
  | .topologyUnknown _ | .addressInvalid _ _ | .contractNameInvalid _ => "value_error"

def message : Cause → String
  | .missing => "Field required"
  | .textExpected => "Input should be a valid string"
  | .textUnencodable =>
    "Input should be a valid string, unable to parse raw data as a unicode string"
  | .textEmpty => "String should have at least 1 character"
  | .integerExpected => "Input should be a valid integer"
  | .integerUnreadable =>
    "Input should be a valid integer, unable to parse string as an integer"
  | .integerTooLong => "Unable to parse input string as an integer, exceeded maximum size"
  | .integerFractional =>
    "Input should be a valid integer, got a number with a fractional part"
  | .integerInfinite => "Input should be a finite number"
  | .notAbove bound => s!"Input should be greater than {bound}"
  | .notBelow bound => s!"Input should be less than {bound}"
  | .truthExpected => "Input should be a valid boolean"
  | .truthUnreadable => "Input should be a valid boolean, unable to interpret input"
  | .listExpected => "Input should be a valid list"
  | .objectExpected => "Input should be a valid dictionary"
  | .recordExpected record => s!"Input should be a valid dictionary or instance of {record}"
  | .wordExpected words => "Input should be " ++ " or ".intercalate (words.map quoted)
  | .variantExpected => "Input should be a valid dictionary or object to extract fields from"
  | .tagMissing tag => s!"Unable to extract tag using discriminator {quoted tag}"
  | .tagUnknown tag shown known =>
    let expected := ", ".intercalate (known.map quoted)
    s!"Input tag '{shown}' found using {quoted tag} does not match any of the expected tags: {expected}"
  | .topologyExpected =>
    "Input should be 'PROTOCOL_TO_PROTOCOL', 'ORIGIN_TO_PROTOCOL' or 'BLOCKCHAIN_WIDE'"
  | .topologyUnknown text => s!"Value error, {quoted text} is not a valid Topology"
  | .addressInvalid role text => s!"Value error, Invalid {role}: {quoted text}"
  | .contractNameInvalid text =>
    s!"Value error, Contract name must be a Solidity identifier, got {quoted text}"

end Cause
end ReactiveContract.Document
