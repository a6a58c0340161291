import ReactiveContract.Compiler.Compilation
import ReactiveContract.Contract.Source
import ReactiveContract.Contract.Request
/-! Generating contracts on request, and compiling them. -/
namespace ReactiveContract
open Document

/-- The generated source with its name and the functions that it calls. -/
structure Generated where
  sourceText : String
  contractName : String
  destinationSignatures : List String := []
  deriving DecidableEq, Repr, Inhabited

namespace Generated

def keys : List Key :=
  [{ name := "source_text", alias? := some "sourceText" },
    { name := "contract_name", alias? := some "contractName" },
    { name := "destination_signatures", alias? := some "destinationSignatures" }]

def ofFields (fields : Fields) : Checked Generated :=
  Generated.mk
    <$> Key.required { name := "source_text", alias? := some "sourceText" } text fields
    <*> Key.required { name := "contract_name", alias? := some "contractName" } text fields
    <*> Key.optional { name := "destination_signatures", alias? := some "destinationSignatures" }
      [] (list text) fields

def ofJson (j : Json) : Checked Generated := record "GenerationResponse" ofFields j

def toFields (g : Generated) : Fields :=
  [("source_text", .str g.sourceText), ("contract_name", .str g.contractName),
    ("destination_signatures", .texts g.destinationSignatures)]

def ofArtifact (a : Artifact) : Generated :=
  { sourceText := a.sourceText
    contractName := a.contractName
    destinationSignatures := a.destinationSignatures }

end Generated

/-- A source to compile, and the contract to take out of the output. -/
structure CompileRequest where
  sourceText : String
  contractName : String := "ReactiveSmartContract"
  deriving DecidableEq, Repr, Inhabited

namespace CompileRequest

def keys : List Key :=
  [{ name := "source_text", alias? := some "sourceText" },
    { name := "contract_name", alias? := some "contractName" }]

def ofFields (fields : Fields) : Checked CompileRequest :=
  CompileRequest.mk
    <$> Key.required { name := "source_text", alias? := some "sourceText" } nonemptyText fields
    <*> Key.optional { name := "contract_name", alias? := some "contractName" }
      "ReactiveSmartContract" text fields

def recordName : String := "CompileRequest"

def ofJson (j : Json) : Checked CompileRequest := record recordName ofFields j

def toFields (r : CompileRequest) : Fields :=
  [("source_text", .str r.sourceText), ("contract_name", .str r.contractName)]

end CompileRequest

structure Compiled where
  abi : List Fields
  bytecode : String
  warnings : List Compiler.Diagnostic := []
  deriving Inhabited

namespace Compiled

def keys : List Key := [{ name := "abi" }, { name := "bytecode" }, { name := "warnings" }]

def ofFields (fields : Fields) : Checked Compiled :=
  Compiled.mk
    <$> Key.required { name := "abi" } (list object) fields
    <*> Key.required { name := "bytecode" } text fields
    <*> Key.optional { name := "warnings" } [] (list Compiler.Diagnostic.ofJson) fields

def ofJson (j : Json) : Checked Compiled := record "CompileResponse" ofFields j

def toFields (c : Compiled) : Fields :=
  [("abi", .arr (c.abi.map .obj)), ("bytecode", .str c.bytecode),
    ("warnings", Compiler.Diagnostic.listJson c.warnings)]

def ofArtifact (a : Artifact) : Compiled :=
  { abi := a.compiledAbi.getD []
    bytecode := a.compiledBytecode.getD ""
    warnings := a.warnings }

end Compiled

namespace Submission

/-- The uncompiled contract that a submission asks for. -/
def artifact (o : Options) (s : Submission) : Traced Artifact := do
  (← s.toSpec o.generator.callbackGasLimit).emit

/-- The source that a submission asks for. -/
def generate (o : Options) (s : Submission) : Traced Generated := do
  return .ofArtifact (← s.artifact o)

/-- Generates a contract and compiles it; the backend is asked only if the source is complete. -/
def generateAndCompile (o : Options) (s : Submission) :
    Inquiry Json (Reply Json) Artifact :=
  Inquiry.after (s.artifact o) fun a =>
    (Compiler.compile o.compiler a.sourceText a.contractName none).andThen fun compiled =>
      pure { a with
        compiledAbi := compiled.compiledAbi
        compiledBytecode := compiled.compiledBytecode
        warnings := compiled.warnings }

end Submission

/-- Compiles the source of a request. -/
def CompileRequest.compile (o : Options) (j : Json) : Inquiry Json (Reply Json) Compiled :=
  match Submission.readDocument recordName ofFields j with
  | .error failure => .done (Traced.fail failure)
  | .ok r =>
    (Compiler.compile o.compiler r.sourceText r.contractName none).andThen fun a =>
      pure (.ofArtifact a)

end ReactiveContract
