import ReactiveContract.Abi.Interface
/-! Bindings of events to functions: where each argument of a callback comes from. -/
namespace ReactiveContract
open Document

/-- Where an argument comes from: a literal, a topic of the log, a field of its data, or the zero
value of its type. -/
inductive Source where
  | fixed (literal : String)
  | topic (index : Int)
  | data (field : String)
  | unbound (zero : Option String)
  deriving DecidableEq, Repr, Inhabited

namespace Source

def fixedTag : String := "fixed"
def topicTag : String := "topic"
def dataTag : String := "data"
def unboundTag : String := "unbound"

def tags : List String := [fixedTag, topicTag, dataTag, unboundTag]

def tagKey : Key := { name := "kind" }
def literalKey : Key := { name := "value" }
def topicKey : Key := { name := "topic_index", alias? := some "topicIndex" }
def fieldKey : Key := { name := "field_name", alias? := some "fieldName" }

/-- The tag of a record, which may be left out but not be another one. -/
def checkTag (tag : String) (fields : Fields) : Checked String :=
  tagKey.optional tag (word [tag]) fields

def fixedOfFields (fields : Fields) : Checked Source :=
  (fun _ literal => fixed literal) <$> checkTag fixedTag fields
    <*> literalKey.required text fields

def topicOfFields (fields : Fields) : Checked Source :=
  (fun _ index => topic index) <$> checkTag topicTag fields
    <*> topicKey.required integer fields

def dataOfFields (fields : Fields) : Checked Source :=
  (fun _ field => data field) <$> checkTag dataTag fields
    <*> fieldKey.required text fields

def unboundOfFields (fields : Fields) : Checked Source :=
  (fun _ zero => unbound zero) <$> checkTag unboundTag fields
    <*> literalKey.optional none (nullable text) fields

/-- The reader of the variant that a tag names. -/
def variant? (tag : String) : Option (Fields → Checked Source) :=
  if tag = fixedTag then some fixedOfFields
  else if tag = topicTag then some topicOfFields
  else if tag = dataTag then some dataOfFields
  else if tag = unboundTag then some unboundOfFields
  else none

/-- Reads the variant that the tag names. -/
def ofJson : Json → Checked Source
  | .obj fields =>
    match Fields.get? fields tagKey.name with
    | none => .fail (.tagMissing tagKey.name)
    | some (.str tag) =>
      match variant? tag with
      | some read => (read fields).under (.key tag)
      | none => .fail (.tagUnknown tagKey.name (Text.replacingSurrogates tag) tags)
    | some other => .fail (.tagUnknown tagKey.name other.display tags)
  | _ => .fail .variantExpected

def toFields : Source → Fields
  | fixed literal => [(tagKey.name, .str fixedTag), (literalKey.name, .str literal)]
  | topic index => [(tagKey.name, .str topicTag), (topicKey.name, .int index)]
  | data field => [(tagKey.name, .str dataTag), (fieldKey.name, .str field)]
  | unbound zero => [(tagKey.name, .str unboundTag), (literalKey.name, .ofOption .str zero)]

end Source

/-- How one input of the function gets its value. -/
structure Mapping where
  target : String := ""
  type : String
  source : Source := .unbound none
  deriving DecidableEq, Repr, Inhabited

namespace Mapping

def targetKey : Key := { name := "target_param_name", alias? := some "targetParamName" }
def typeKey : Key := { name := "target_type", alias? := some "targetType" }
def sourceKey : Key := { name := "source" }

def keys : List Key := [targetKey, typeKey, sourceKey]

def ofFields (fields : Fields) : Checked Mapping :=
  Mapping.mk
    <$> targetKey.optional "" text fields
    <*> typeKey.required text fields
    <*> sourceKey.optional (.unbound none) Source.ofJson fields

def ofJson (j : Json) : Checked Mapping := record "InputMapping" ofFields j

def toFields (m : Mapping) : Fields := [
  (targetKey.name, .str m.target),
  (typeKey.name, .str m.type),
  (sourceKey.name, .obj m.source.toFields)]

end Mapping

/-- An event, the function that its logs call, one mapping for each input of the function, and an
optional guard. -/
structure Binding where
  event : Abi.Event
  callee : Abi.Callee
  mappings : List Mapping
  condition : Option String := none
  deriving DecidableEq, Repr, Inhabited

namespace Binding

def keys : List Key :=
  [{ name := "event" }, { name := "function" }, { name := "mappings" }, { name := "condition" }]

def ofFields (fields : Fields) : Checked Binding :=
  Binding.mk
    <$> Key.required { name := "event" } Abi.Event.ofJson fields
    <*> Key.required { name := "function" } Abi.Callee.ofJson fields
    <*> Key.required { name := "mappings" } (list Mapping.ofJson) fields
    <*> Key.optional { name := "condition" } none (nullable text) fields

def ofJson (j : Json) : Checked Binding := record "Binding" ofFields j

def toFields (b : Binding) : Fields :=
  [("event", .obj b.event.toFields), ("function", .obj b.callee.toFields),
    ("mappings", .arr (b.mappings.map fun m => .obj m.toFields)),
    ("condition", .ofOption .str b.condition)]

end Binding
end ReactiveContract
