import ReactiveContract.Binding.Basic
import ReactiveContract.Contract.Settings
/-! Complete descriptions of the contracts to generate. -/
namespace ReactiveContract
open Document

/-- The settings and the resolved bindings, whose order is that of the dispatch. -/
structure Spec where
  settings : Settings
  bindings : List Binding
  deriving DecidableEq, Repr, Inhabited

namespace Spec

def bindingsKey : Key := { name := "bindings" }

def keys : List Key := Settings.keys ++ [bindingsKey]

def ofFields (fields : Fields) : Checked Spec :=
  let fields := Settings.expandSingleOrigin fields
  Spec.mk <$> Settings.ofFields fields
    <*> bindingsKey.required (list Binding.ofJson) fields

def ofJson (j : Json) : Checked Spec := record "GenerationConfig" ofFields j

def toFields (s : Spec) : Fields :=
  s.settings.toFields ++ [(bindingsKey.name, .arr (s.bindings.map fun b => .obj b.toFields))]

end Spec
end ReactiveContract
