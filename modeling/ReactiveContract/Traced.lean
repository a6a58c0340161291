import ReactiveContract.Failure
/-! Computations that may fail and leave notes. -/
namespace ReactiveContract

/-- Notes are kept whatever the outcome. -/
structure Traced (α : Type) where
  notes : List Note := []
  outcome : Except Failure α

namespace Traced

def bind (x : Traced α) (f : α → Traced β) : Traced β :=
  match x.outcome with
  | .ok a =>
    let y := f a
    ⟨x.notes ++ y.notes, y.outcome⟩
  | .error failure => ⟨x.notes, .error failure⟩

instance : Monad Traced where
  pure a := ⟨[], .ok a⟩
  bind := bind

def fail (failure : Failure) : Traced α := ⟨[], .error failure⟩

def note (n : Note) : Traced Unit := ⟨[n], .ok ()⟩

def ofExcept (outcome : Except Failure α) : Traced α := ⟨[], outcome⟩

/-- Leaves one more note if the computation breaks a rule. -/
def noteViolation (n : Note) (x : Traced α) : Traced α :=
  match x.outcome with
  | .error (.violation _) => ⟨x.notes ++ [n], x.outcome⟩
  | _ => x

end Traced
end ReactiveContract
