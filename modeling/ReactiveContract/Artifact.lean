import ReactiveContract.Compiler.Diagnostic
/-! Generated source, and what its compilation yields. -/
namespace ReactiveContract
open Document

structure Artifact where
  sourceText : String
  contractName : String
  destinationSignatures : List String := []
  compiledAbi : Option (List Fields) := none
  compiledBytecode : Option String := none
  warnings : List Compiler.Diagnostic := []
  deriving Inhabited

namespace Artifact

def isCompiled (a : Artifact) : Bool := a.compiledAbi.isSome && a.compiledBytecode.isSome

def keys : List Key :=
  [{ name := "source_text" }, { name := "contract_name" }, { name := "destination_signatures" },
    { name := "compiled_abi" }, { name := "compiled_bytecode" }, { name := "warnings" }]

def compiledAbiKey : Key := { name := "compiled_abi" }

def ofFields (fields : Fields) : Checked Artifact :=
  Artifact.mk
    <$> Key.required { name := "source_text" } text fields
    <*> Key.required { name := "contract_name" } text fields
    <*> Key.optional { name := "destination_signatures" } [] (list text) fields
    <*> compiledAbiKey.optional none (nullable (list object)) fields
    <*> Key.optional { name := "compiled_bytecode" } none (nullable text) fields
    <*> Key.optional { name := "warnings" } [] (list Compiler.Diagnostic.ofJson) fields

def ofJson (j : Json) : Checked Artifact := record "GeneratedArtifact" ofFields j

def toFields (a : Artifact) : Fields :=
  [("source_text", .str a.sourceText), ("contract_name", .str a.contractName),
    ("destination_signatures", .texts a.destinationSignatures),
    (compiledAbiKey.name, .ofOption (fun entries => .arr (entries.map .obj)) a.compiledAbi),
    ("compiled_bytecode", .ofOption .str a.compiledBytecode),
    ("warnings", Compiler.Diagnostic.listJson a.warnings)]

end Artifact
end ReactiveContract
