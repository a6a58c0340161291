import ReactiveContract.Artifact
import ReactiveContract.Traced
/-! What compilers answer: diagnostics and contracts. -/
namespace ReactiveContract.Compiler
open Document

/-- The name of the only source file. -/
def sourceFile : String := "Contract.sol"

/-- The value of a key, or nothing if it is empty in any sense. -/
def fieldOrEmpty (j : Json) (key : String) : Except Failure (Option Json) :=
  match j with
  | .obj fields => .ok ((Fields.get? fields key).filter Json.isTruthy)
  | _ => .error (.misuse .noSuchMember)

/-- The value at the end of a path of keys, or nothing as soon as one of them leads nowhere. -/
def descend : List String → Json → Except Failure (Option Json)
  | [], j => .ok (some j)
  | key :: rest, j =>
    match fieldOrEmpty j key with
    | .ok (some inner) => descend rest inner
    | other => other

/-- Items to go through one by one. -/
def itemsOf : Option Json → Except Failure (List Json)
  | none => .ok []
  | some (.arr items) => .ok items
  | some (.str s) => .ok ((Text.spellings s.toList).map fun c => .str (String.ofList c))
  | some (.obj fields) => .ok (fields.map fun f => .str f.1)
  | some _ => .error (.misuse .wrongType)

namespace Diagnostic

/-- A source range as file, start and end. -/
def locationOf (raw : Fields) : Option String :=
  match Fields.get? raw "sourceLocation" with
  | some (.obj range) =>
    let shown (key : String) : String := ((Fields.get? range key).getD .null).display
    some (":".intercalate [shown "file", shown "start", shown "end"])
  | _ => none

/-- Only the exact word marks an error. -/
def severityOf (raw : Fields) : Severity :=
  match Fields.get? raw "severity" with
  | some (.str s) => if s = Severity.error.text then .error else .warning
  | _ => .warning

/-- The short message, else the formatted one, else a stand-in. -/
def messageOf (raw : Fields) : Json :=
  let nonempty (key : String) : Option Json := (Fields.get? raw key).filter Json.isTruthy
  ((nonempty "message").or (nonempty "formattedMessage")).getD (.str "unknown compiler diagnostic")

/-- Reads one diagnostic of the compiler's output. -/
def ofOutput : Json → Except Failure Diagnostic
  | .obj raw =>
    match (text (messageOf raw)).under (.key "message") with
    | .ok message =>
      .ok { severity := severityOf raw, message, location := locationOf raw }
    | .rejected faults => .error (.malformed faults)
  | _ => .error (.misuse .noSuchMember)

def readAll : List Json → Except Failure (List Diagnostic)
  | [] => .ok []
  | j :: rest => do
    let d ← ofOutput j
    return d :: (← readAll rest)

def errors (ds : List Diagnostic) : List Diagnostic := ds.filter (·.severity = .error)

def warnings (ds : List Diagnostic) : List Diagnostic := ds.filter (·.severity = .warning)

end Diagnostic

/-- All diagnostics of an output. -/
def diagnosticsOf (output : Json) : Except Failure (List Diagnostic) := do
  Diagnostic.readAll (← itemsOf (← fieldOrEmpty output "errors"))

/-- Names in the order of their code points. -/
def sortNames (names : List String) : List String :=
  names.mergeSort fun a b => !Text.isBefore b a

def textsOf : List Json → Option (List String)
  | [] => some []
  | .str s :: rest => (textsOf rest).map (s :: ·)
  | _ :: _ => none

/-- A contract that the output does not have. -/
def missing (name : String) (found : List String) : Traced Json := do
  let available := sortNames found
  Traced.note (.contractMissing name available)
  Traced.fail (.contractNotFound name available)

/-- Whether code points have others inside. -/
def occursIn (part : List Nat) : List Nat → Bool
  | [] => part.isEmpty
  | point :: rest => part.isPrefixOf (point :: rest) || occursIn part rest

/-- The contract of a name among the contracts of the source file. -/
def findContract (name : String) : Option Json → Traced Json
  | none => missing name []
  | some (.obj fields) =>
    match Fields.get? fields name with
    | some contract => pure contract
    | none => missing name (fields.map (·.1))
  | some (.str s) =>
    if occursIn (Text.points name) (Text.points s) then Traced.fail (.misuse .wrongType)
    else missing name ((Text.spellings s.toList).map String.ofList)
  | some (.arr items) =>
    match textsOf items with
    | some texts =>
      if name ∈ texts then Traced.fail (.misuse .wrongType) else missing name texts
    | none => Traced.fail (.misuse .wrongType)
  | some _ => Traced.fail (.misuse .wrongType)

/-- Bytecode with the mark of hexadecimal digits, unless there is none. -/
def markedBytecode (code : String) : String :=
  if code = "" || "0x".isPrefixOf code then code else "0x" ++ code

/-- How many items a value has. -/
def sizeOf? : Json → Option Nat
  | .str s => some (Text.pointCount s)
  | .arr items => some items.length
  | .obj fields => some fields.length
  | _ => none

/-- The bytecode of a contract; its size is noted before its form is looked at. -/
def bytecodeOf (name : String) (contract : Json) : Traced String := do
  let code ← Traced.ofExcept (descend ["evm", "bytecode", "object"] contract)
  let code := code.getD (.str "")
  match sizeOf? code with
  | none => Traced.fail (.misuse .wrongType)
  | some size => do
    Traced.note (.compiled name (size / 2))
    match code with
    | .str code => return markedBytecode code
    | _ => Traced.fail (.misuse .noSuchMember)

/-- The interface of a contract, which has to be a list of objects. -/
def abiOf (contract : Json) : Except Failure (List Fields) := do
  let abi := (← fieldOrEmpty contract "abi").getD (.arr [])
  match (list object abi).under (.key Artifact.compiledAbiKey.name) with
  | .ok entries => return entries
  | .rejected faults => throw (.malformed faults)

/-- The compiled contract of an output without errors. -/
def extract (source name : String) (warnings : List Diagnostic) (output : Json) :
    Traced Artifact := do
  let contracts ← Traced.ofExcept (descend ["contracts", sourceFile] output)
  let contract ← findContract name contracts
  let code ← bytecodeOf name contract
  let abi ← Traced.ofExcept (abiOf contract)
  return {
    sourceText := source
    contractName := name
    compiledAbi := some abi
    compiledBytecode := some code
    warnings }

/-- Sorts the diagnostics of an output; without an error among them, takes the contract out. -/
def readOutput (source name : String) (output : Json) : Traced Artifact := do
  match output with
  | .obj _ =>
    let diagnostics ← Traced.ofExcept (diagnosticsOf output)
    match Diagnostic.errors diagnostics with
    | first :: rest => do
      Traced.note (.compilationFailed (rest.length + 1) first.message)
      Traced.fail (.compilation first.message diagnostics)
    | [] => do
      let warnings := Diagnostic.warnings diagnostics
      if warnings ≠ [] then Traced.note (.compiledWithWarnings warnings.length)
      extract source name warnings output
  | _ => Traced.fail (.service .outputNotObject)

end ReactiveContract.Compiler
