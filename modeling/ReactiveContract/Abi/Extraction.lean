import ReactiveContract.Abi.Entry
import ReactiveContract.Abi.Interface
import ReactiveContract.Traced
/-! The events and functions of an interface that can be bound. -/
namespace ReactiveContract.Abi

def entryKinds : List String :=
  ["function", "constructor", "event", "fallback", "receive", "error"]

namespace Entry

/-- An entry says what it is, and says so in one of the known words. -/
def checkKind (position : Int) (e : Entry) : Except Fault Entry :=
  match e.kind with
  | none => .error (.kindMissing position e.name)
  | some kind => if kind ∈ entryKinds then .ok e else .error (.kindUnknown position kind)

/-- Reads the entry at a position of an interface. -/
def parse (position : Int) : Json → Except Fault Entry
  | .obj fields =>
    match Entry.ofFields fields with
    | .ok e => checkKind position e
    | .rejected faults => .error (.entryMalformed position faults)
  | _ => .error (.entryNotObject position)

/-- An event whose logs carry its topic. -/
def isSubscribable (e : Entry) : Bool := e.kind = some "event" && !e.anonymous

/-- A function that may change the state. -/
def isCallable (e : Entry) : Bool := e.kind = some "function" && !e.isReadOnly

/-- The canonical types of parameters from a position on. -/
def canonicalTypes (fault : Nat → TypeFault → Fault) :
    Nat → List Param → Except Fault (List (Param × String))
  | _, [] => .ok []
  | position, p :: rest =>
    match ValueType.ofText? p.type with
    | .error e => .error (fault position e)
    | .ok t => (canonicalTypes fault (position + 1) rest).map ((p, t.text) :: ·)

end Entry

/-- The bytes of a text in UTF-8, where they have to be had. -/
def encode (s : String) : Except Failure (List UInt8) :=
  match Text.utf8? s with
  | some message => .ok message
  | none => .error (.misuse .unencodable)

/-- The event that an entry declares, with the topic of its encoded signature. -/
def Event.ofEntry (e : Entry) : Except Failure Event := do
  let params ← (Entry.canonicalTypes (.eventInput e.name) 0 e.inputs).mapError .invalidAbi
  let signature := signatureOf e.name (params.map (·.2))
  let message ← encode signature
  return {
    name := e.name
    inputs := params.zipIdx.map fun ((p, type), i) => ⟨p.name, type, p.indexed, i⟩
    signature
    topic0 := topicOf message }

/-- The function that an entry declares. -/
def Callee.ofEntry (e : Entry) : Except Fault Callee := do
  let params ← Entry.canonicalTypes (.calleeInput e.name) 0 e.inputs
  return {
    name := e.name
    inputs := params.zipIdx.map fun ((p, type), i) => ⟨p.name, type, i⟩
    signature := signatureOf e.name (params.map (·.2))
    mutability := e.mutability }

/-- The entries of an interface, from a position on. -/
def entriesFrom : Nat → List Json → Except Fault (List Entry)
  | _, [] => .ok []
  | i, j :: rest => do
    let e ← Entry.parse i j
    return e :: (← entriesFrom (i + 1) rest)

/-- The entries of an interface, which has to be an array. -/
def entries : Json → Except Fault (List Entry)
  | .arr items => entriesFrom 0 items
  | _ => .error .notArray

/-- The subscribable events among some entries; an anonymous one is passed over with a note. -/
def eventsOf : List Entry → Traced (List Event)
  | [] => pure []
  | e :: rest =>
    if e.kind ≠ some "event" then eventsOf rest
    else if e.anonymous then do
      Traced.note (.anonymousSkipped e.name)
      eventsOf rest
    else do
      let event ← Traced.ofExcept (Event.ofEntry e)
      return event :: (← eventsOf rest)

/-- Every subscribable event of an interface, in the order of declaration. -/
def events (abi : Json) : Traced (List Event) := do
  eventsOf (← Traced.ofExcept ((entries abi).mapError .invalidAbi))

/-- Every function of an interface that may change the state, in the order of declaration. -/
def callees (abi : Json) : Except Fault (List Callee) := do
  ((← entries abi).filter Entry.isCallable).mapM Callee.ofEntry

end ReactiveContract.Abi
