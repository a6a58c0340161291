import ReactiveContract.Abi.Extraction
import ReactiveContract.Abi.Intake
import ReactiveContract.Address
import ReactiveContract.Explorer.Redirect
import ReactiveContract.Explorer.Status
import ReactiveContract.Inquiry
import ReactiveContract.Options.Basic
/-! Interfaces of verified contracts, looked up at an explorer. -/
namespace ReactiveContract.Explorer
open Document

structure HttpRequest where
  url : String
  deriving DecidableEq, Repr

/-- Headers and a body as bytes, a failure of the connection, or no answer in time. -/
inductive HttpReply where
  | answered (status : Nat) (headers : List (String × String)) (body : List Nat)
  | failed (text : String)
  | timedOut
  deriving Repr

/-- What is known of a verified contract. -/
structure Description where
  address : String
  abi : List Json
  events : List Abi.Event
  callees : List Abi.Callee
  deriving Inhabited

namespace Description

def keys : List Key :=
  [{ name := "address" }, { name := "abi" }, { name := "events" }, { name := "functions" }]

/-- The entries of an interface, each of which has to be an object. -/
def entries : Json → Checked (List Json) := list fun j => (object j).map Json.obj

def ofFields (fields : Fields) : Checked Description :=
  Description.mk
    <$> Key.required { name := "address" } text fields
    <*> Key.required { name := "abi" } entries fields
    <*> Key.required { name := "events" } (list Abi.Event.ofJson) fields
    <*> Key.required { name := "functions" } (list Abi.Callee.ofJson) fields

def ofJson (j : Json) : Checked Description := record "ContractDescription" ofFields j

/-- A description of parts at hand, of which only the entries are checked once more. -/
def ofParts (address : String) (abi : List Json) (events : List Abi.Event)
    (callees : List Abi.Callee) : Checked Description :=
  ((entries (.arr abi)).under (.key "abi")).map fun abi => { address, abi, events, callees }

def toFields (d : Description) : Fields :=
  [("address", .str d.address), ("abi", .arr d.abi),
    ("events", .arr (d.events.map fun e => .obj e.toFields)),
    ("functions", .arr (d.callees.map fun c => .obj c.toFields))]

end Description

/-- The address that a value spells. -/
def addressOf (j : Json) : Except Failure Address :=
  let invalid : Except Failure Address :=
    .error (.violation { cause := .addressInvalid j.display, field := some "address" })
  match j with
  | .str text =>
    match Address.read? text with
    | some a => .ok a
    | none => invalid
  | _ => invalid

/-- The parameters of a request for the interface at an address. -/
def parameters? (o : ExplorerOptions) (a : Address) : Option (List (String × String)) := do
  let keys ← if o.apiKey.isTruthy then parameter? "apikey" o.apiKey else some []
  return [("module", "contract"), ("action", "getabi"), ("address", a.text)] ++ keys

def request (o : ExplorerOptions) (a : Address) : Except RequestFault Url :=
  requestUrl o.apiUrl (parameters? o a)

def failedRequest (a : Address) (text : String) : Traced α := do
  Traced.note (.explorerFailed a.text text)
  Traced.fail (.service (.explorerFailed text))

def invalidUrl : Traced α := Traced.fail (.foreign ⟨"InvalidURL", .other, ""⟩)

def notJson : Traced α := Traced.fail (.service .explorerNotJson)

/-- What becomes of an answer that is no success. -/
def refused (url : Url) (a : Address) (status : Nat) (location : Option String) : Traced α :=
  let failed := failedRequest a (statusMessage status url.text location)
  match location with
  | none => failed
  | some location =>
    if isRedirect status then
      match url.redirect location with
      | .ok _ => failed
      | .error (.locationInvalid fault) =>
        failedRequest a s!"Invalid URL in location header: {fault.message}."
      | .error .targetInvalid => invalidUrl
      | .error .targetUnreadable => notJson
    else failed

/-- The value of a body, provided that the request succeeded. -/
def payloadOf (o : ExplorerOptions) (url : Url) (a : Address) : HttpReply → Traced Json
  | .timedOut => do
    Traced.note (.explorerTimedOut a.text)
    Traced.fail (.service (.explorerTimedOut o.timeout))
  | .failed text => failedRequest a text
  | .answered status headers body =>
    if !headersAreReadable headers || !url.isAbsolute then notJson
    else if isSuccess status then
      match Json.readBytes body with
      | .ok payload => pure payload
      | .error _ => notJson
    else refused url a status (locationOf headers)

/-- Whether the explorer vouches for its answer. -/
def isVerified (payload : Json) : Bool :=
  match payload with
  | .obj fields => ((Fields.get? fields "status").getD .null).display = "1"
  | _ => false

/-- What an explorer says instead of an interface. -/
def detailOf (payload : Json) : String :=
  match payload with
  | .obj fields => ((Fields.get? fields "result").getD .null).display
  | other => other.display

/-- The entries of a verified interface. -/
def entriesOf (a : Address) (payload : Json) : Traced (List Json) := do
  if !isVerified payload then do
    Traced.note (.unverified a.text (detailOf payload))
    Traced.fail (.invalidAbi (.unverified a.text (detailOf payload)))
  let abi ← Traced.ofExcept ((Abi.ofValue payload).mapError .invalidAbi)
  Traced.note (.fetched a.text abi.length)
  return abi

/-- Asks for the interface at an address; nothing is asked if it is none. -/
def fetch (o : ExplorerOptions) (address : Json) : Inquiry HttpRequest HttpReply (List Json) :=
  match addressOf address with
  | .error failure => .done (Traced.fail failure)
  | .ok a =>
    let fetching : Note := .fetching a.text o.apiUrl
    match request o a with
    | .error (.urlInvalid _) => .done ⟨[fetching], invalidUrl.outcome⟩
    | .error _ => .done ⟨[fetching], notJson.outcome⟩
    | .ok url => .ask [fetching] ⟨url.text⟩ fun reply => do
      entriesOf a (← payloadOf o url a reply)

/-- What can be bound from an interface. -/
def introspect (address : Json) (abi : List Json) : Traced Description := do
  let address ← Traced.ofExcept (addressOf address)
  let events ← Abi.events (.arr abi)
  let callees ← Traced.ofExcept ((Abi.callees (.arr abi)).mapError .invalidAbi)
  Traced.ofExcept ((Description.ofParts address.text abi events callees).toExcept.mapError
    .malformed)

/-- Looks a contract up and lists what can be bound from it. -/
def describe (o : ExplorerOptions) (address : Json) :
    Inquiry HttpRequest HttpReply Description :=
  (fetch o address).andThen (introspect address)

end ReactiveContract.Explorer
