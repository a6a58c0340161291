import ReactiveContract.Document.Record
/-! Messages of the compiler. -/
namespace ReactiveContract.Compiler
open Document

inductive Severity where
  | error
  | warning
  deriving DecidableEq, Repr, Inhabited

def Severity.text : Severity → String
  | .error => "error"
  | .warning => "warning"

structure Diagnostic where
  severity : Severity
  message : String
  location : Option String := none
  deriving DecidableEq, Repr, Inhabited

namespace Diagnostic

def keys : List Key :=
  [{ name := "severity" }, { name := "message" }, { name := "location" }]

def severityOfJson (j : Json) : Checked Severity :=
  (fun s => if s = Severity.error.text then Severity.error else .warning)
    <$> word [Severity.error.text, Severity.warning.text] j

def ofFields (fields : Fields) : Checked Diagnostic :=
  Diagnostic.mk
    <$> Key.required { name := "severity" } severityOfJson fields
    <*> Key.required { name := "message" } text fields
    <*> Key.optional { name := "location" } none (nullable text) fields

def ofJson (j : Json) : Checked Diagnostic := record "CompilationDiagnostic" ofFields j

def toFields (d : Diagnostic) : Fields :=
  [("severity", .str d.severity.text), ("message", .str d.message),
    ("location", .ofOption .str d.location)]

def listJson (ds : List Diagnostic) : Json := .arr (ds.map fun d => .obj d.toFields)

end Diagnostic
end ReactiveContract.Compiler
