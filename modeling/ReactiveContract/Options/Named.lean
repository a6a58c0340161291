import ReactiveContract.Json.Display
import ReactiveContract.Options.Basic
/-! Options given by name. -/
namespace ReactiveContract

namespace OptionReader

/-- Refuses names that no option has. -/
def checkNames (known : List String) (fields : Fields) : Except OptionFault Unit :=
  match fields.find? fun f => f.1 ∉ known with
  | some f => .error (.unknownName f.1)
  | none => .ok ()

def text (fields : Fields) (name default : String) : Except OptionFault String :=
  match Fields.get? fields name with
  | none => .ok default
  | some (.str s) => .ok s
  | some _ => .error (.wrongType name)

/-- A URL; a value that counts as nothing is taken for one that leads nowhere. -/
def url (fields : Fields) (name default : String) : Except OptionFault String :=
  match Fields.get? fields name with
  | none => .ok default
  | some (.str s) => .ok s
  | some j => .error (if j.isTruthy then .urlNotText else .urlInvalid j.display)

/-- A value of any kind, as it is. -/
def value (fields : Fields) (name : String) (default : Json) : Json :=
  (Fields.get? fields name).getD default

def quantity (fields : Fields) (name : String) (default : Quantity) :
    Except OptionFault Quantity :=
  match Fields.get? fields name with
  | none => .ok default
  | some j =>
    match Quantity.ofJson? j with
    | some q => .ok q
    | none => .error (.wrongType name)

end OptionReader

open OptionReader

/-- Each option is checked before the next one is read. -/
def CompilerOptions.ofFields (fields : Fields) : Except OptionFault CompilerOptions := do
  checkNames ["solc_version", "optimize", "optimize_runs", "evm_version", "timeout",
    "install_missing"] fields
  let default : CompilerOptions := {}
  let o ← { default with
    solcVersion := (← text fields "solc_version" default.solcVersion)
    optimize := value fields "optimize" default.optimize
    evmVersion := value fields "evm_version" default.evmVersion
    installMissing := value fields "install_missing" default.installMissing }.check
  let o ← { o with optimizeRuns := (← quantity fields "optimize_runs" o.optimizeRuns) }.check
  { o with timeout := (← quantity fields "timeout" o.timeout) }.check

def ExplorerOptions.ofFields (fields : Fields) : Except OptionFault ExplorerOptions := do
  checkNames ["api_url", "api_key", "timeout"] fields
  let default : ExplorerOptions := {}
  let o ← { default with
    apiUrl := (← url fields "api_url" default.apiUrl)
    apiKey := value fields "api_key" default.apiKey }.check
  { o with timeout := (← quantity fields "timeout" o.timeout) }.check

def GeneratorOptions.ofFields (fields : Fields) : Except OptionFault GeneratorOptions := do
  checkNames ["callback_gas_limit"] fields
  let default : GeneratorOptions := {}
  { callbackGasLimit :=
    (← quantity fields "callback_gas_limit" default.callbackGasLimit) : GeneratorOptions }.check

/-- The fields of a part; null stands for none. -/
def optionPart (fields : Fields) (name : String) : Except OptionFault Fields :=
  match Fields.get? fields name with
  | none => .ok []
  | some (.obj part) => .ok part
  | some _ => .error (.wrongType name)

/-- All options, by part; null stands for the default ones. -/
def Options.ofJson : Json → Except OptionFault Options
  | .null => .ok {}
  | .obj fields => do
    let compiler ← CompilerOptions.ofFields (← optionPart fields "compiler")
    let explorer ← ExplorerOptions.ofFields (← optionPart fields "explorer")
    let generator ← GeneratorOptions.ofFields (← optionPart fields "generator")
    return { compiler, explorer, generator }
  | _ => .error (.wrongType "options")

end ReactiveContract
