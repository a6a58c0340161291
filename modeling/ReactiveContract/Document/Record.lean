import ReactiveContract.Document.Scalar
/-! Records: objects with named fields, some of which may be left out. -/
namespace ReactiveContract.Document

/-- A field's name, and the other spelling of it that documents may use. -/
structure Key where
  name : String
  alias? : Option String := none
  deriving DecidableEq, Repr

namespace Key

/-- The spelling that faults of an absent field show. -/
def wireName (key : Key) : String := key.alias?.getD key.name

/-- The spelling used by an object and the value there; the alias comes first. -/
def find? (key : Key) (fields : Fields) : Option (String × Json) :=
  let aliased := key.alias?.bind fun a => (Fields.get? fields a).map (a, ·)
  aliased.or ((Fields.get? fields key.name).map (key.name, ·))

def required (key : Key) (read : Json → Checked α) (fields : Fields) : Checked α :=
  match key.find? fields with
  | some (name, j) => (read j).under (.key name)
  | none => (Checked.fail .missing).under (.key key.wireName)

def optional (key : Key) (default : α) (read : Json → Checked α) (fields : Fields) : Checked α :=
  match key.find? fields with
  | some (name, j) => (read j).under (.key name)
  | none => .ok default

end Key

/-- The names of the fields that an object gives. -/
def given (keys : List Key) (fields : Fields) : List String :=
  (keys.filter fun key => (key.find? fields).isSome).map (·.name)

/-- Reads an object as a record. -/
def record (name : String) (read : Fields → Checked α) : Json → Checked α
  | .obj fields => read fields
  | _ => .fail (.recordExpected name)

end ReactiveContract.Document
