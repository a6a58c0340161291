import ReactiveContract.Json.Display
/-! Numbers that are kept as they were given. -/
namespace ReactiveContract

/-- A number in the form in which it was given; a truth value counts as one or zero. -/
inductive Quantity where
  | truth (b : Bool)
  | whole (n : Int)
  | binary (x : Binary64)
  deriving DecidableEq, Repr, Inhabited

namespace Quantity

/-- The order of a quantity and a whole number; a NaN has none. -/
def compareWhole? (q : Quantity) (n : Int) : Option Ordering :=
  match q with
  | .truth b => some (compare (if b then 1 else 0) n)
  | .whole m => some (compare m n)
  | .binary x => x.compareInt? n

def isBelow (q : Quantity) (n : Int) : Bool := q.compareWhole? n = some .lt

def isAbove (q : Quantity) (n : Int) : Bool := q.compareWhole? n = some .gt

def isAtMost (q : Quantity) (n : Int) : Bool := q.isBelow n || q.compareWhole? n = some .eq

def isAtLeast (q : Quantity) (n : Int) : Bool := q.isAbove n || q.compareWhole? n = some .eq

def toJson : Quantity → Json
  | .truth b => .bool b
  | .whole n => .int n
  | .binary x => .float x

def ofJson? : Json → Option Quantity
  | .bool b => some (.truth b)
  | .int n => some (.whole n)
  | .float x => some (.binary x)
  | _ => none

def display (q : Quantity) : String := q.toJson.display

end Quantity
end ReactiveContract
