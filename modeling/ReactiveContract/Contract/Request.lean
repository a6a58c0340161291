import ReactiveContract.Abi.Extraction
import ReactiveContract.Binding.Resolution
import ReactiveContract.Contract.Spec
/-! Requests for contracts, whose bindings are still to be resolved. -/
namespace ReactiveContract
open Document

structure BindingRequest where
  event : Abi.Entry
  callee : Abi.Entry
  mappings : List Mapping := []
  condition : Option String := none
  deriving DecidableEq, Repr, Inhabited

namespace BindingRequest

def keys : List Key :=
  [{ name := "event" }, { name := "function" },
    { name := "input_mappings", alias? := some "inputMappings" }, { name := "condition" }]

def ofFields (fields : Fields) : Checked BindingRequest :=
  BindingRequest.mk
    <$> Key.required { name := "event" } Abi.Entry.ofJson fields
    <*> Key.required { name := "function" } Abi.Entry.ofJson fields
    <*> Key.optional { name := "input_mappings", alias? := some "inputMappings" } []
      (list Mapping.ofJson) fields
    <*> Key.optional { name := "condition" } none (nullable text) fields

def ofJson (j : Json) : Checked BindingRequest := record "BindingRequest" ofFields j

def toFields (r : BindingRequest) : Fields :=
  [("event", .obj r.event.toFields), ("function", .obj r.callee.toFields),
    ("input_mappings", .arr (r.mappings.map fun m => .obj m.toFields)),
    ("condition", .ofOption .str r.condition)]

/-- Resolves the binding at an index: both entries have to be of a known kind, the event
subscribable and the function callable. -/
def resolve (index : Nat) (r : BindingRequest) : Traced Binding := do
  let event ← Traced.ofExcept ((Abi.Entry.checkKind index r.event).mapError .invalidAbi)
  let callee ← Traced.ofExcept ((Abi.Entry.checkKind index r.callee).mapError .invalidAbi)
  if !event.isSubscribable then
    Traced.fail (.violation {
      cause := .notSubscribable index event.name, field := some "event" })
  if !callee.isCallable then
    Traced.fail (.violation {
      cause := .notCallable index callee.name, field := some "function" })
  let eventInfo ← Traced.ofExcept (Abi.Event.ofEntry event)
  let calleeInfo ← Traced.ofExcept ((Abi.Callee.ofEntry callee).mapError .invalidAbi)
  Traced.noteViolation (.bindingRejected index event.name callee.name)
    (Traced.ofExcept
      ((Binding.resolve eventInfo calleeInfo r.mappings r.condition).mapError .violation))

/-- Resolves bindings from an index on. -/
def resolveAll : Nat → List BindingRequest → Traced (List Binding)
  | _, [] => pure []
  | index, r :: rest => do
    let b ← resolve index r
    return b :: (← resolveAll (index + 1) rest)

end BindingRequest

/-- A request, and whether it sets the gas limit itself. -/
structure Request where
  settings : Settings
  bindings : List BindingRequest
  setsGasLimit : Bool
  deriving DecidableEq, Repr, Inhabited

namespace Request

def ofFields (fields : Fields) : Checked Request :=
  let fields := Settings.expandSingleOrigin fields
  (fun settings bindings => {
    settings, bindings
    setsGasLimit := (Settings.callbackGasLimitKey.find? fields).isSome })
  <$> Settings.ofFields fields
  <*> Spec.bindingsKey.required (list BindingRequest.ofJson) fields

def recordName : String := "GenerationRequest"

def ofJson (j : Json) : Checked Request := record recordName ofFields j

def toFields (r : Request) : Fields :=
  r.settings.toFields
    ++ [(Spec.bindingsKey.name, .arr (r.bindings.map fun b => .obj b.toFields))]

end Request

/-- What is handed in: a document, or a request some of whose fields have been replaced since. -/
inductive Submission where
  | document (j : Json)
  | revised (request : Request) (changes : Fields)

namespace Submission

/-- Reads a document as a record; a topology that it names is looked at before all else. -/
def readDocument (name : String) (read : Fields → Checked α) : Json → Except Failure α
  | .obj fields => do
    match Fields.get? fields Settings.topologyKey.name with
    | some given => discard (Topology.resolve given)
    | none => pure ()
    match read fields with
    | .ok a => return a
    | .rejected faults => throw (.violation (.ofFaults faults))
  | other => .error (.violation { cause := .recordExpected name other.kind })

/-- Bindings put in place of those of a request cannot be resolved; only none at all pass. -/
def replacedBindings : Json → Traced (List Binding)
  | .arr [] | .obj [] | .str "" => pure []
  | .arr _ | .obj _ | .str _ => Traced.fail (.misuse .noSuchMember)
  | _ => Traced.fail (.misuse .wrongType)

/-- The resolved bindings of a submission. -/
def bindingsOf (request : Request) (changes : Fields) : Traced (List Binding) :=
  match Fields.get? changes Spec.bindingsKey.name with
  | some replaced => replacedBindings replaced
  | none => BindingRequest.resolveAll 0 request.bindings

/-- The settings with replaced fields, and with the given gas limit if none was set. -/
def settingsOf (request : Request) (changes : Fields) (gasLimit : Quantity) : Fields :=
  let limitName := Settings.callbackGasLimitKey.name
  let replaced := request.settings.toFields.map fun (name, value) =>
    (name, (Fields.get? changes name).getD value)
  if request.setsGasLimit || Fields.contains changes limitName then replaced
  else Fields.insert limitName gasLimit.toJson replaced

/-- The description of the contract that a request asks for. The settings are checked again, as
they may have been replaced. -/
def describe (request : Request) (changes : Fields) (gasLimit : Quantity) : Traced Spec := do
  let bindings ← bindingsOf request changes
  match Settings.ofFields (settingsOf request changes gasLimit) with
  | .ok settings => return { settings, bindings }
  | .rejected faults => Traced.fail (.violation (.ofFaults faults))

/-- The description of the contract that a submission asks for; the gas limit is for requests that
set none. -/
def toSpec (gasLimit : Quantity) : Submission → Traced Spec
  | .document j => do
    let request ← Traced.ofExcept (readDocument Request.recordName Request.ofFields j)
    describe request [] gasLimit
  | .revised request changes => describe request changes gasLimit

end Submission
end ReactiveContract
