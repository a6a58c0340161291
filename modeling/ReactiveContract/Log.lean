import ReactiveContract.Quantity
/-! The notes that the library leaves on its way. -/
namespace ReactiveContract

inductive Level where
  | debug
  | info
  | warning
  | error
  | critical
  deriving DecidableEq, Repr

/-- The parts of the library that leave notes. -/
inductive Channel where
  | introspection
  | emission
  | service
  | compiler
  | collaboration
  | explorer
  | configuration
  deriving DecidableEq, Repr

inductive Note where
  | anonymousSkipped (event : String)
  | topicShared (first later : Nat) (topic0 event : String)
  | bindingPlanned (index : Nat) (event callee : String)
  | generated (contract topology : String) (bindings : Nat) (pausable : Bool)
  | bindingRejected (index : Nat) (event callee : String)
  | compiling (size : Nat) (contract : String)
  | timedOut (what : String) (limit : Quantity)
  | backendFailed (text : String)
  | compilationFailed (errors : Nat) (first : String)
  | compiledWithWarnings (warnings : Nat)
  | contractMissing (contract : String) (found : List String)
  | compiled (contract : String) (size : Nat)
  | installing (version : String)
  | fetching (address url : String)
  | explorerTimedOut (address : String)
  | explorerFailed (address text : String)
  | unverified (address detail : String)
  | fetched (address : String) (entries : Nat)
  | configurationLoaded (version : String) (timeout : Quantity)
  deriving DecidableEq, Repr

namespace Note

def level : Note → Level
  | .anonymousSkipped _ | .topicShared _ _ _ _ | .bindingPlanned _ _ _ | .compiling _ _
  | .fetching _ _ | .configurationLoaded _ _ => .debug
  | .generated _ _ _ _ | .compiled _ _ | .installing _ | .fetched _ _ => .info
  | .bindingRejected _ _ _ | .compiledWithWarnings _ | .unverified _ _ => .warning
  | .timedOut _ _ | .backendFailed _ | .compilationFailed _ _ | .explorerTimedOut _
  | .explorerFailed _ _ => .error
  | .contractMissing _ _ => .critical

def channel : Note → Channel
  | .anonymousSkipped _ => .introspection
  | .topicShared _ _ _ _ | .bindingPlanned _ _ _ | .generated _ _ _ _ => .emission
  | .bindingRejected _ _ _ => .service
  | .compiling _ _ | .backendFailed _ | .compilationFailed _ _ | .compiledWithWarnings _
  | .contractMissing _ _ | .compiled _ _ | .installing _ => .compiler
  | .timedOut _ _ => .collaboration
  | .fetching _ _ | .explorerTimedOut _ | .explorerFailed _ _ | .unverified _ _
  | .fetched _ _ => .explorer
  | .configurationLoaded _ _ => .configuration

def truthText (b : Bool) : String := if b then "True" else "False"

/-- Names in a row, or a word that says there are none. -/
def listed (names : List String) : String :=
  let text := ", ".intercalate names
  if text = "" then "none" else text

def message : Note → String
  | .anonymousSkipped event => s!"Skipping anonymous event {event}"
  | .topicShared first later topic0 event =>
    s!"Bindings #{first} and #{later} share topic0 {topic0} ({event}); only #{first} is reachable"
  | .bindingPlanned index event callee => s!"Binding #{index}: {event} -> {callee}"
  | .generated contract topology bindings pausable =>
    s!"Generated {contract} ({topology}, {bindings} bindings, pausable={truthText pausable})"
  | .bindingRejected index event callee => s!"Binding #{index} ({event} -> {callee}) rejected"
  | .compiling size contract => s!"Compiling {size} bytes of source for {contract}"
  | .timedOut what limit => s!"{what} timed out after {limit.display}s"
  | .backendFailed text => s!"Compiler backend failed: {text}"
  | .compilationFailed errors first => s!"Compilation failed with {errors} error(s): {first}"
  | .compiledWithWarnings warnings => s!"Compilation produced {warnings} warning(s)"
  | .contractMissing contract found =>
    s!"Compiled output lacks {contract} (found: {listed found}); emitter and compiler disagree on the contract name"
  | .compiled contract size => s!"Compiled {contract} ({size} bytes of bytecode)"
  | .installing version => s!"Installing solc {version}"
  | .fetching address url => s!"Fetching ABI for {address} from {url}"
  | .explorerTimedOut address => s!"Explorer request for {address} timed out"
  | .explorerFailed address text => s!"Explorer request for {address} failed: {text}"
  | .unverified address detail => s!"No verified ABI for {address}: {detail}"
  | .fetched address entries => s!"Fetched ABI for {address} ({entries} entries)"
  | .configurationLoaded version timeout =>
    s!"Loaded configuration: solc {version}, timeout {timeout.display}s"

end Note
end ReactiveContract
