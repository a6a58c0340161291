import ReactiveContract.Decimal.Reading
import ReactiveContract.Options.Basic
import ReactiveContract.Traced
/-! Options from environment variables. -/
namespace ReactiveContract
open Text

/-- The value of each variable that is set. -/
abbrev Environment := String → Option String

namespace Environment

def trueWords : List String := ["1", "true", "yes", "on"]

def falseWords : List String := ["0", "false", "no", "off", ""]

/-- A truth value, given by a word of either case with blanks around it. -/
def boolean (env : Environment) (name : String) (default : Bool) : Except OptionFault Bool :=
  match env name with
  | none => .ok default
  | some text =>
    let word := lower (trim text)
    if word ∈ trueWords then .ok true
    else if word ∈ falseWords then .ok false
    else .error (.notBoolean name text)

def number (env : Environment) (name default : String) (read? : String → Option α) :
    Except OptionFault α :=
  let text := (env name).getD default
  match read? text with
  | some n => .ok n
  | none => .error (.notNumber name text)

def seconds (env : Environment) (name default : String) : Except OptionFault Quantity :=
  (number env name default readBinary64?).map .binary

def integer (env : Environment) (name default : String) : Except OptionFault Quantity :=
  (number env name default readInteger?).map .whole

/-- A text, unless it is empty. -/
def nonempty (env : Environment) (name : String) : Json :=
  .ofOption .str ((env name).filter (· ≠ ""))

end Environment

def CompilerOptions.ofEnvironment (env : Environment) : Except OptionFault CompilerOptions := do
  let solcVersion := (env "RSCGEN_SOLC_VERSION").getD "0.8.23"
  let optimize ← env.boolean "RSCGEN_SOLC_OPTIMIZE" false
  let optimizeRuns ← env.integer "RSCGEN_SOLC_OPTIMIZE_RUNS" "200"
  let evmVersion := env.nonempty "RSCGEN_EVM_VERSION"
  let timeout ← env.seconds "RSCGEN_COMPILE_TIMEOUT" "60"
  let installMissing ← env.boolean "RSCGEN_SOLC_INSTALL" true
  check {
    solcVersion, optimizeRuns, evmVersion, timeout
    optimize := .bool optimize
    installMissing := .bool installMissing }

def ExplorerOptions.ofEnvironment (env : Environment) : Except OptionFault ExplorerOptions := do
  let apiUrl := (env "RSCGEN_EXPLORER_URL").getD "https://api.etherscan.io/api"
  let apiKey := env.nonempty "RSCGEN_EXPLORER_API_KEY"
  let timeout ← env.seconds "RSCGEN_EXPLORER_TIMEOUT" "30"
  check { apiUrl, apiKey, timeout }

def GeneratorOptions.ofEnvironment (env : Environment) : Except OptionFault GeneratorOptions := do
  let callbackGasLimit ← env.integer "RSCGEN_CALLBACK_GAS_LIMIT" "1000000"
  check { callbackGasLimit }

/-- All options; the compiler's come first, so that the first fault is theirs if they have one. -/
def Options.ofEnvironment (env : Environment) : Except OptionFault Options := do
  let compiler ← CompilerOptions.ofEnvironment env
  let explorer ← ExplorerOptions.ofEnvironment env
  let generator ← GeneratorOptions.ofEnvironment env
  return { compiler, explorer, generator }

/-- The note that goes with options that have been loaded. -/
def Options.loadedNote (o : Options) : Note :=
  .configurationLoaded o.compiler.solcVersion o.compiler.timeout

end ReactiveContract
