import ReactiveContract.Network.Label
import ReactiveContract.Text.Blank
/-! Domain names in characters of any script, and in ASCII. -/
namespace ReactiveContract.Network
open Text

/-- Points of all scripts as the point of ASCII. -/
def plainPoint (c : Char) : Char :=
  if c ∈ ['\u3002', '\uff0e', '\uff61'] then '.' else c

/-- The labels of a name, and whether a point ends it. -/
def labelsOf (name : List Char) : List (List Char) × Bool :=
  let labels := splitAtEach '.' (name.map plainPoint)
  if labels.getLast? = some [] then (labels.dropLast, true) else (labels, false)

/-- A name in small letters written in ASCII. -/
def encodeName? (name : List Char) : Option (List Char) := do
  if maxNameLength < name.length then none
  else
    let (labels, isPointed) := labelsOf name
    let labels ← labels.mapM encodeLabel?
    let ascii := ['.'].intercalate (if isPointed then labels ++ [[]] else labels)
    let most := if isPointed then maxNameLength else maxNameLength - 1
    if labels.isEmpty || most < ascii.length then none else some ascii

/-- Whether every label of a name in ASCII stands for something. -/
def isDecodable (name : List Char) : Bool :=
  let (labels, _) := labelsOf name
  name.length ≤ maxNameLength && !labels.isEmpty && labels.all fun l => (decodeLabel? l).isSome

end ReactiveContract.Network
