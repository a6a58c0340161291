import ReactiveContract.Abi.Fault
import ReactiveContract.Compiler.Diagnostic
import ReactiveContract.Log
import ReactiveContract.Violation
/-! Everything that can go wrong, by cause. -/
namespace ReactiveContract

/-- Why a collaborator gives no usable answer. -/
inductive ServiceFault where
  | timedOut (what : String) (limit : Quantity)
  | backendFailed (text : String)
  | outputNotObject
  | notInstalled (version : String)
  | notInstallable (version text : String)
  | notRunnable (text : String)
  | outputUnstructured (text : String)
  | explorerTimedOut (limit : Quantity)
  | explorerFailed (text : String)
  | explorerNotJson
  | reported (text : String)

def ServiceFault.message : ServiceFault → String
  | .timedOut what limit => s!"{what} timed out after {limit.display}s"
  | .backendFailed text => s!"Compiler backend failed: {text}"
  | .outputNotObject => "Compiler backend returned a non-object response"
  | .notInstalled version => s!"solc {version} is not installed"
  | .notInstallable version text => s!"Unable to install solc {version}: {text}"
  | .notRunnable text => s!"Unable to run solc: {text}"
  | .outputUnstructured text => s!"solc failed without structured output: {text}"
  | .explorerTimedOut limit => s!"Explorer request timed out after {limit.display}s"
  | .explorerFailed text => s!"Explorer request failed: {text}"
  | .explorerNotJson => "Explorer returned a non-JSON response"
  | .reported text => text

/-- Why a topology cannot be used. -/
inductive TopologyFault where
  | unknown (given : Json)
  | reported (text : String)

def TopologyFault.message : TopologyFault → String
  | .unknown given => s!"Unsupported topology: {given.quoted}"
  | .reported text => text

/-- What kind of thing failed outside of this library. -/
inductive Family where
  | timeout
  | system
  | installer
  | notInstalled
  | compilerRun (output : Option String)
  | other
  deriving DecidableEq, Repr

/-- A failure of a collaborator, under the name it has there. -/
structure ForeignFailure where
  name : String
  family : Family
  text : String
  deriving DecidableEq, Repr

/-- How a value differs from what its use takes for granted. -/
inductive Misuse where
  | noSuchMember
  | wrongType
  | outOfBounds
  | unencodable
  deriving DecidableEq, Repr

inductive Failure where
  | invalidAbi (fault : Abi.Fault)
  | violation (v : Violation)
  | unsupportedTopology (fault : TopologyFault)
  | service (fault : ServiceFault)
  | compilation (message : String) (diagnostics : List Compiler.Diagnostic)
  | contractNotFound (name : String) (available : List String)
  | unclassified (text : String)
  | malformed (faults : Document.Faults)
  | typeNotInTopic (type : String)
  | misuse (kind : Misuse)
  | foreign (failure : ForeignFailure)

namespace Failure

/-- Whether a failure belongs to the library's own vocabulary. -/
def isOwn : Failure → Bool
  | .invalidAbi _ | .violation _ | .unsupportedTopology _ | .service _ | .compilation _ _
  | .contractNotFound _ _ | .unclassified _ => true
  | .malformed _ | .typeNotInTopic _ | .misuse _ | .foreign _ => false

def message : Failure → String
  | .invalidAbi fault => fault.message
  | .violation v => v.message
  | .unsupportedTopology fault => fault.message
  | .service fault => fault.message
  | .compilation message _ => message
  | .contractNotFound name available =>
    s!"Contract '{name}' not found in compiler output (available: {Note.listed available})"
  | .unclassified text => text
  | .malformed _ => "<details>"
  | .typeNotInTopic type => (Violation.Cause.typeNotInTopic type).message
  | .misuse _ => ""
  | .foreign failure => failure.text

end Failure
end ReactiveContract
