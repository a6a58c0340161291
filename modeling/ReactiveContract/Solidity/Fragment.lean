/-! Fragments of contract source, and their lines. -/
namespace ReactiveContract.Solidity

def indentUnit : String := "    "

def indentation (level : Nat) : String := String.join (List.replicate level indentUnit)

/-- Indents every line that is not empty. -/
def indent (level : Nat) (lines : List String) : List String :=
  lines.map fun line => if line = "" then "" else indentation level ++ line

def joinLines (lines : List String) : String := "\n".intercalate lines

/-- Every line but the last one gets a comma. -/
def commaLines : List String → List String
  | [] => []
  | [line] => [line]
  | line :: rest => (line ++ ",") :: commaLines rest

/-- Texts and byte strings of any length live in memory. -/
def isReference (type : String) : Bool := type = "string" || type = "bytes"

/-- The declaration of a local variable. -/
def localDeclaration (type name : String) : String :=
  type ++ (if isReference type then " memory" else "") ++ " " ++ name

structure Constant where
  type : String
  name : String
  value : String
  deriving DecidableEq, Repr, Inhabited

def Constant.render (c : Constant) : String :=
  s!"{c.type} private constant {c.name} = {c.value};"

/-- Stands for any topic. -/
def anyTopic : String := "REACTIVE_IGNORE"

/-- The arguments of a subscription, as expressions. -/
structure Criteria where
  chainId : String
  contract : String
  topic0 : String
  topic1 : String := anyTopic
  topic2 : String := anyTopic
  topic3 : String := anyTopic
  deriving DecidableEq, Repr, Inhabited

def Criteria.arguments (c : Criteria) : List String :=
  [c.chainId, c.contract, c.topic0, c.topic1, c.topic2, c.topic3]

def subscribeSignature : String := "subscribe(uint256,address,uint256,uint256,uint256,uint256)"

/-- A subscription in the constructor, whose failure is recorded. -/
structure Subscription where
  index : Int
  criteria : Criteria
  deriving DecidableEq, Repr, Inhabited

namespace Subscription

def resultName (s : Subscription) : String := s!"subscribed_{s.index}"

def render (s : Subscription) : List String :=
  [s!"(bool {s.resultName},) = address(service).call(",
    indentUnit ++ "abi.encodeWithSignature("]
  ++ (commaLines (("\"" ++ subscribeSignature ++ "\"") :: s.criteria.arguments)).map
    (indentation 2 ++ ·)
  ++ [indentUnit ++ ")", ");",
    s!"subscription_failed = subscription_failed || !{s.resultName};"]

end Subscription

/-- Takes the data of a log apart: types in layout order, with the names of the fields to keep. -/
structure DataDecoding where
  fields : List (String × Option String)
  deriving DecidableEq, Repr, Inhabited

namespace DataDecoding

/-- A component of several; one without a name leaves its place empty. -/
def component : String × Option String → String
  | (type, some name) => if name = "" then "" else localDeclaration type name
  | (_, none) => ""

def render (d : DataDecoding) : List String :=
  let types := ", ".intercalate (d.fields.map (·.1))
  match d.fields with
  | [(type, name)] =>
    let declared := localDeclaration type (name.getD "None")
    [s!"{declared} = abi.decode(data, ({types}));"]
  | fields =>
    let declared := ", ".intercalate (fields.map component)
    [s!"({declared}) = abi.decode(data, ({types}));"]

end DataDecoding

/-- The call that is encoded and emitted for the destination. -/
structure CallbackEmission where
  signature : String
  arguments : List String
  deriving DecidableEq, Repr, Inhabited

namespace CallbackEmission

/-- The signature in quotes, then the arguments. -/
def items (c : CallbackEmission) : List String := ("\"" ++ c.signature ++ "\"") :: c.arguments

def render (c : CallbackEmission) : List String :=
  ["bytes memory payload = abi.encodeWithSignature("]
  ++ (commaLines c.items).map (indentUnit ++ ·)
  ++ [");",
    "emit Callback(DESTINATION_CHAIN_ID, DESTINATION_CONTRACT, CALLBACK_GAS_LIMIT, payload);"]

end CallbackEmission

structure Requirement where
  condition : String
  message : String
  deriving DecidableEq, Repr, Inhabited

def Requirement.render (r : Requirement) : List String :=
  [s!"require({r.condition}, \"{r.message}\");"]

inductive Statement where
  | decode (d : DataDecoding)
  | require (r : Requirement)
  | emit (c : CallbackEmission)
  deriving DecidableEq, Repr, Inhabited

def Statement.render : Statement → List String
  | .decode d => d.render
  | .require r => r.render
  | .emit c => c.render

/-- What to do for the logs of one topic. -/
structure Branch where
  topicConstant : String
  statements : List Statement
  deriving DecidableEq, Repr, Inhabited

namespace Branch

def condition (b : Branch) : String := s!"topic_0 == {b.topicConstant}"

/-- The statements of a branch, one level deep. -/
def body (b : Branch) : List String := b.statements.flatMap fun s => indent 1 s.render

def head (first : Bool) (b : Branch) : String :=
  (if first then "if (" else "\x7d else if (") ++ b.condition ++ ") \x7b"

end Branch

/-- Tries its branches in order. -/
structure Dispatch where
  branches : List Branch
  deriving DecidableEq, Repr, Inhabited

def Dispatch.render (d : Dispatch) : List String :=
  match d.branches with
  | [] => []
  | b :: rest =>
    b.head true :: b.body ++ (rest.flatMap fun b => b.head false :: b.body) ++ ["\x7d"]

/-- The subscriptions that a pause undoes and a resumption renews. -/
structure SubscriptionTable where
  entries : List Criteria
  deriving DecidableEq, Repr, Inhabited

namespace SubscriptionTable

def entryLines (i : Nat) (c : Criteria) : List String :=
  [s!"{indentUnit}result[{i}] = Subscription("]
  ++ (commaLines c.arguments).map (indentation 2 ++ ·)
  ++ [indentUnit ++ ");"]

def render (t : SubscriptionTable) : List String :=
  ["function getPausableSubscriptions() internal pure override returns (Subscription[] memory) \x7b",
    s!"{indentUnit}Subscription[] memory result = new Subscription[]({t.entries.length});"]
  ++ (t.entries.zipIdx.flatMap fun (c, i) => entryLines i c)
  ++ [indentUnit ++ "return result;", "\x7d"]

end SubscriptionTable

/-- The parameters of the reaction; those that the body does not use have no name. -/
structure ReactParameters where
  used : List String := []
  deriving DecidableEq, Repr, Inhabited

namespace ReactParameters

def all : List (String × String) := [
  ("uint256", "chain_id"), ("address", "_contract"), ("uint256", "topic_0"),
  ("uint256", "topic_1"), ("uint256", "topic_2"), ("uint256", "topic_3"),
  ("bytes calldata", "data"), ("uint256", "block_number"), ("uint256", "op_code")]

def parameter (p : ReactParameters) : String × String → String
  | (type, name) => if name ∈ p.used then s!"{type} {name}" else s!"{type} /* {name} */"

def render (p : ReactParameters) : List String := commaLines (all.map p.parameter)

end ReactParameters

/-- The contracts whose logs are handled. -/
structure AllowList where
  addresses : List String
  deriving DecidableEq, Repr, Inhabited

namespace AllowList

def constantName (index : String) : String := s!"APPLICABLE_ADDRESS_{index}"

def constants (l : AllowList) : List Constant :=
  l.addresses.zipIdx.map fun (address, i) => ⟨"address", constantName (toString i), address⟩

def guard (subject : String) : Requirement :=
  ⟨s!"isApplicableAddress({subject})", "Address not allowed"⟩

/-- The tests of an address, joined by "or". -/
def checks : List Constant → List String
  | [] => []
  | c :: rest =>
    (indentUnit ++ "return addr == " ++ c.name)
      :: rest.map fun c => indentation 2 ++ "|| addr == " ++ c.name

/-- Closes the last line with a semicolon. -/
def closeLast : List String → List String
  | [] => []
  | [line] => [line ++ ";"]
  | line :: rest => line :: closeLast rest

/-- The membership test, which an empty list does not have. -/
def render? (l : AllowList) : Option (List String) :=
  match l.constants with
  | [] => none
  | constants => some (
    ["function isApplicableAddress(address addr) private pure returns (bool) \x7b"]
    ++ closeLast (checks constants) ++ ["\x7d"])

end AllowList
end ReactiveContract.Solidity
