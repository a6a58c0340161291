import ReactiveContract.Document.Record
import ReactiveContract.Failure
import ReactiveContract.Text.Case
/-! The shapes that a reactive contract can take. -/
namespace ReactiveContract
open Document

/-- Each binding has its own origin, or all share one, or logs of every origin count. -/
inductive Topology where
  | protocolToProtocol
  | originToProtocol
  | blockchainWide
  deriving DecidableEq, Repr, Inhabited

namespace Topology

def all : List Topology := [.protocolToProtocol, .originToProtocol, .blockchainWide]

def text : Topology → String
  | .protocolToProtocol => "PROTOCOL_TO_PROTOCOL"
  | .originToProtocol => "ORIGIN_TO_PROTOCOL"
  | .blockchainWide => "BLOCKCHAIN_WIDE"

/-- A name without hyphens, underscores and letter case. -/
def nameKey (name : String) : String :=
  Text.lower (String.ofList (name.toList.filter fun c => c != '_' && c != '-'))

/-- The topology of a name, up to hyphens, underscores and letter case. -/
def ofText? (name : String) : Option Topology :=
  all.find? fun t => nameKey t.text = nameKey name

def ofJson : Json → Checked Topology
  | .str name =>
    match ofText? name with
    | some t => .ok t
    | none => .fail (.topologyUnknown name)
  | _ => .fail .topologyExpected

/-- The topology that a request names. -/
def resolve (given : Json) : Except Failure Topology :=
  match given with
  | .str name =>
    match ofText? name with
    | some t => .ok t
    | none => .error (.unsupportedTopology (.unknown given))
  | _ => .error (.unsupportedTopology (.unknown given))

end Topology
end ReactiveContract
