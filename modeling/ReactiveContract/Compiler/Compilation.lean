import ReactiveContract.Compiler.Output
import ReactiveContract.Inquiry
import ReactiveContract.Options.Basic
import ReactiveContract.Text.Blank
/-! What a backend is asked for to compile a source, which it is asked once. -/
namespace ReactiveContract.Compiler

/-- A request for the interface and the bytecode of every contract of a source. -/
def request (o : CompilerOptions) (source : String) : Json :=
  let selection : Json := .obj [("*", .obj [("*", .arr [.str "abi", .str "evm.bytecode.object"])])]
  let optimizer :=
    if o.optimize.isTruthy then
      [("optimizer", Json.obj [("enabled", .bool true), ("runs", o.optimizeRuns.toJson)])]
    else []
  let version := if o.evmVersion.isTruthy then [("evmVersion", o.evmVersion)] else []
  .obj [
    ("language", .str "Solidity"),
    ("sources", .obj [(sourceFile, .obj [("content", .str source)])]),
    ("settings", .obj (("outputSelection", selection) :: optimizer ++ version))]

/-- What a timed out compilation is called. -/
def activity : String := "solc compile"

/-- A source that is not blank, and a positive time to wait, the given one or the default. -/
def checkCall (o : CompilerOptions) (source : String) (timeout : Option Quantity) :
    Except Violation Quantity :=
  if Text.trim source = "" then .error { cause := .sourceEmpty, field := some "sourceText" }
  else match timeout with
    | none => .ok o.timeout
    | some limit =>
      if limit.isAtMost 0 then
        .error { cause := .timeoutNotPositive limit, field := some "timeout" }
      else .ok limit

/-- Failures that are not the library's own are reported as those of the backend. -/
def classify (x : Traced α) : Traced α :=
  match x.outcome with
  | .ok _ => x
  | .error failure =>
    if failure.isOwn then x
    else ⟨x.notes ++ [.backendFailed failure.message],
      .error (.service (.backendFailed failure.message))⟩

/-- The artifact that a backend's reply yields. -/
def conclude (source name : String) (limit : Quantity) (reply : Reply Json) : Traced Artifact := do
  let output ← classify (reply.await activity limit)
  readOutput source name output

/-- Asks a backend to compile a source and takes one contract out of its answer. -/
def compile (o : CompilerOptions) (source name : String) (timeout : Option Quantity) :
    Inquiry Json (Reply Json) Artifact :=
  match checkCall o source timeout with
  | .error v => .done (Traced.fail (.violation v))
  | .ok limit =>
    .ask [.compiling (Text.pointCount source) name] (request o source) (conclude source name limit)

end ReactiveContract.Compiler
