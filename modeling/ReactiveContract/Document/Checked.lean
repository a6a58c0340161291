import ReactiveContract.Document.Fault
/-! Results of reading documents: a value, or all the faults that were found. -/
namespace ReactiveContract.Document

inductive Checked (α : Type) where
  | ok (value : α)
  | rejected (faults : Faults)
  deriving Repr

namespace Checked

def fail (cause : Cause) : Checked α := .rejected (.single cause)

def map (f : α → β) : Checked α → Checked β
  | .ok a => .ok (f a)
  | .rejected faults => .rejected faults

/-- Faults of both sides are kept, those of the function first. -/
def apply : Checked (α → β) → Checked α → Checked β
  | .ok f, .ok a => .ok (f a)
  | .ok _, .rejected faults => .rejected faults
  | .rejected faults, .ok _ => .rejected faults
  | .rejected faults, .rejected more => .rejected (faults.append more)

instance : Applicative Checked where
  pure := .ok
  map := map
  seq f a := apply f (a ())

/-- Places the faults of a part into the whole. -/
def under (step : Step) : Checked α → Checked α
  | .ok a => .ok a
  | .rejected faults => .rejected (faults.under step)

/-- A further check on a value that has been read. -/
def refine (f : α → Except Cause β) : Checked α → Checked β
  | .ok a =>
    match f a with
    | .ok b => .ok b
    | .error cause => fail cause
  | .rejected faults => .rejected faults

def toExcept : Checked α → Except Faults α
  | .ok a => .ok a
  | .rejected faults => .error faults

@[simp] theorem map_ok (f : α → β) (a : α) : f <$> Checked.ok a = .ok (f a) := rfl

@[simp] theorem seq_ok (f : α → β) (a : α) : Checked.ok f <*> Checked.ok a = .ok (f a) := rfl

end Checked
end ReactiveContract.Document
