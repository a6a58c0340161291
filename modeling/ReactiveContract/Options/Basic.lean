import ReactiveContract.Network.Origin
import ReactiveContract.Quantity
import ReactiveContract.Text.DecimalDigit
import ReactiveContract.Text.Blank
import ReactiveContract.Text.Quoted
/-! Options of the compiler, the explorer and the generator, and the ranges they have to lie in. -/
namespace ReactiveContract
open Text

/-- What a compiler is run with. Where only the truth of an option matters, any value will do. -/
structure CompilerOptions where
  solcVersion : String := "0.8.23"
  optimize : Json := .bool false
  optimizeRuns : Quantity := .whole 200
  evmVersion : Json := .null
  timeout : Quantity := .binary (.ofDecimal false 60 0)
  installMissing : Json := .bool true
  deriving Inhabited

structure ExplorerOptions where
  apiUrl : String := "https://api.etherscan.io/api"
  apiKey : Json := .null
  timeout : Quantity := .binary (.ofDecimal false 30 0)
  deriving Inhabited

structure GeneratorOptions where
  callbackGasLimit : Quantity := .whole 1000000
  deriving DecidableEq, Repr, Inhabited

structure Options where
  compiler : CompilerOptions := {}
  explorer : ExplorerOptions := {}
  generator : GeneratorOptions := {}
  deriving Inhabited

/-- Why options are refused. -/
inductive OptionFault where
  | unknownName (name : String)
  | wrongType (name : String)
  | versionInvalid (version : String)
  | runsOutOfRange (runs : Quantity)
  | compileTimeoutNotPositive (timeout : Quantity)
  | compileTimeoutTooLong (timeout : Quantity)
  | urlSpoilt (fault : Network.OriginFault)
  | urlInvalid (url : String)
  | urlNotText
  | explorerTimeoutNotPositive (timeout : Quantity)
  | gasLimitOutOfRange (limit : Quantity)
  | notBoolean (setting text : String)
  | notNumber (setting text : String)
  | notLevel (text : String)
  deriving DecidableEq, Repr

def OptionFault.message : OptionFault → String
  | .unknownName name => s!"unknown option {name}"
  | .wrongType name => s!"wrong type of option {name}"
  | .versionInvalid version =>
    s!"Invalid solc version (RSCGEN_SOLC_VERSION): {version}. Expected MAJOR.MINOR.PATCH"
  | .runsOutOfRange runs =>
    s!"Optimizer runs (RSCGEN_SOLC_OPTIMIZE_RUNS) must be in 1..1000000, got {runs.display}"
  | .compileTimeoutNotPositive timeout =>
    s!"Compile timeout (RSCGEN_COMPILE_TIMEOUT) must be positive, got {timeout.display}"
  | .compileTimeoutTooLong timeout =>
    s!"Compile timeout too long (max 600s), got {timeout.display}"
  | .urlSpoilt fault => fault.message
  | .urlInvalid url =>
    s!"Invalid explorer URL (RSCGEN_EXPLORER_URL): {url}. Expected http or https"
  | .urlNotText => "explorer URL is no text"
  | .explorerTimeoutNotPositive timeout =>
    s!"Explorer timeout (RSCGEN_EXPLORER_TIMEOUT) must be positive, got {timeout.display}"
  | .gasLimitOutOfRange limit =>
    s!"Callback gas limit (RSCGEN_CALLBACK_GAS_LIMIT) must fit uint64, got {limit.display}"
  | .notBoolean setting text => s!"{setting} must be a boolean, got {quoted text}"
  | .notNumber setting text => s!"{setting} must be a number, got {quoted text}"
  | .notLevel text => s!"Unknown level: {quoted text}"

/-- A text without one line feed at its end. -/
def withoutFinalLineFeed (cs : List Char) : List Char :=
  if cs.getLast? = some '\n' then cs.dropLast else cs

/-- Three numbers with points between them, and perhaps a final line feed. -/
def isVersion (version : String) : Bool :=
  let isNumber (cs : List Char) : Bool :=
    !cs.isEmpty && cs.all fun c => (decimalDigit? c).isSome
  match splitAtEach '.' (withoutFinalLineFeed version.toList) with
  | [major, minor, patch] => isNumber major && isNumber minor && isNumber patch
  | _ => false

def mostOptimizeRuns : Int := 1000000

/-- The longest time to wait for the compiler. -/
def longestCompile : Int := 600

def CompilerOptions.check (o : CompilerOptions) : Except OptionFault CompilerOptions :=
  if !isVersion o.solcVersion then .error (.versionInvalid o.solcVersion)
  else if !(o.optimizeRuns.isAtLeast 1 && o.optimizeRuns.isAtMost mostOptimizeRuns) then
    .error (.runsOutOfRange o.optimizeRuns)
  else if o.timeout.isAtMost 0 then .error (.compileTimeoutNotPositive o.timeout)
  else if o.timeout.isAbove longestCompile then .error (.compileTimeoutTooLong o.timeout)
  else .ok o

def ExplorerOptions.check (o : ExplorerOptions) : Except OptionFault ExplorerOptions :=
  match Network.Origin.ofUrl o.apiUrl with
  | .error fault => .error (.urlSpoilt fault)
  | .ok origin =>
    if (origin.scheme ≠ "http" ∧ origin.scheme ≠ "https") ∨ origin.authority = [] then
      .error (.urlInvalid o.apiUrl)
    else if o.timeout.isAtMost 0 then .error (.explorerTimeoutNotPositive o.timeout)
    else .ok o

/-- The first number that is no gas limit. -/
def GeneratorOptions.gasLimitBound : Nat := Nat.pow 2 64

def GeneratorOptions.check (o : GeneratorOptions) : Except OptionFault GeneratorOptions :=
  if o.callbackGasLimit.isAbove 0 && o.callbackGasLimit.isBelow gasLimitBound then .ok o
  else .error (.gasLimitOutOfRange o.callbackGasLimit)

end ReactiveContract
