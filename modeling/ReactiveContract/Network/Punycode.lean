/-! Texts of any characters written with letters, digits and hyphens: a number of variable length
for each character outside of ASCII, which says how far it lies from the one before. -/
namespace ReactiveContract.Network.Punycode

/-- The digit of a number below thirty-six. -/
def digit (n : Nat) : Char :=
  if n < 26 then Char.ofNat (n + 'a'.toNat) else Char.ofNat (n - 26 + '0'.toNat)

def digitValue? (c : Char) : Option Nat :=
  if 'a' ≤ c ∧ c ≤ 'z' then some (c.toNat - 'a'.toNat)
  else if 'A' ≤ c ∧ c ≤ 'Z' then some (c.toNat - 'A'.toNat)
  else if '0' ≤ c ∧ c ≤ '9' then some (c.toNat - '0'.toNat + 26)
  else none

/-- The least value of a digit that is not the last one of its number. -/
def threshold (bias place : Nat) : Nat := max 1 (min 26 (place - bias))

theorem threshold_pos (bias place : Nat) : 1 ≤ threshold bias place := Nat.le_max_left ..

/-- Divides a distance until it is small, and counts thirty-six for each time. -/
def scale (distance : Nat) : Nat × Nat :=
  if 455 < distance then
    let (rest, count) := scale (distance / 35)
    (rest, count + 36)
  else (distance, 0)
termination_by distance
decreasing_by exact Nat.div_lt_self (by omega) (by omega)

/-- The bias that suits a text of the given length after a distance. -/
def nextBias (distance length : Nat) (first : Bool) : Nat :=
  let distance := if first then distance / 700 else distance / 2
  let (rest, count) := scale (distance + distance / length)
  count + 36 * rest / (rest + 38)

/-- The digits of a number, least significant first, from a place on. -/
def digits (bias place n : Nat) : List Char :=
  let t := threshold bias place
  if n < t then [digit n]
  else digit (t + (n - t) % (36 - t)) :: digits bias (place + 36) ((n - t) / (36 - t))
termination_by n
decreasing_by
  have := threshold_pos bias place
  exact Nat.lt_of_le_of_lt (Nat.div_le_self ..) (by omega)

/-- What is left of the digits after the number that they begin with. -/
def readNumber? (bias : Nat) :
    (place weight n : Nat) → List Char → Option (Nat × List Char)
  | _, _, _, [] => none
  | place, weight, n, c :: rest => do
    let d ← digitValue? c
    let t := threshold bias place
    if d < t then return (n + d * weight, rest)
    else readNumber? bias (place + 36) (weight * (36 - t)) (n + d * weight) rest

theorem readNumber?_shorter {bias : Nat} {cs : List Char} {place weight n m : Nat}
    {rest : List Char} (h : readNumber? bias place weight n cs = some (m, rest)) :
    rest.length < cs.length := by
  induction cs generalizing place weight n with
  | nil => simp [readNumber?] at h
  | cons c cs ih =>
    unfold readNumber? at h
    cases hd : digitValue? c with
    | none => simp [hd] at h
    | some d =>
      simp only [hd, Option.bind_eq_bind, Option.bind_some] at h
      split at h
      · simp only [Option.pure_def, Option.some.injEq, Prod.mk.injEq] at h
        simp [← h.2]
      · exact Nat.lt_succ_of_lt (ih h)

structure Encoder where
  written : List Char := []
  distance : Nat := 0
  bias : Nat := 72
  handled : Nat
  deriving Repr

/-- Passes one character on the way to the next of the given code point. -/
def Encoder.pass (basic code : Nat) (e : Encoder) (c : Char) : Encoder :=
  if c.toNat < code then { e with distance := e.distance + 1 }
  else if c.toNat = code then
    { written := e.written ++ digits e.bias 36 e.distance
      distance := 0
      bias := nextBias e.distance (e.handled + 1) (e.handled == basic)
      handled := e.handled + 1 }
  else e

/-- Writes the places of all characters from a code point on. -/
def Encoder.run (text : List Char) (basic : Nat) : List Nat → Nat → Encoder → Encoder
  | [], _, e => e
  | code :: codes, next, e =>
    let e := { e with distance := e.distance + (code - next) * (e.handled + 1) }
    let e := text.foldl (Encoder.pass basic code) e
    Encoder.run text basic codes (code + 1) { e with distance := e.distance + 1 }

/-- Inserts a number into an ascending list that may have it. -/
def insertCode (n : Nat) : List Nat → List Nat
  | [] => [n]
  | m :: ms => if n < m then n :: m :: ms else if n = m then m :: ms else m :: insertCode n ms

def isBasic (c : Char) : Bool := c.toNat < 0x80

/-- The characters of ASCII and a hyphen, if there are any, and then the places of the others. -/
def encode (text : List Char) : List Char :=
  let basic := text.filter isBasic
  let codes := ((text.filter (!isBasic ·)).map Char.toNat).foldr insertCode []
  let e := Encoder.run text basic.length codes 0x80 { handled := basic.length }
  (if basic.isEmpty then [] else basic ++ ['-']) ++ e.written

/-- Inserts the characters that the digits tell into a text, each at or after the place given. -/
def insertAll? (bias code place : Nat) (text cs : List Char) : Option (List Char) :=
  if cs.isEmpty then some text
  else match _h : readNumber? bias 36 1 0 cs with
    | none => none
    | some (distance, rest) =>
      let length := text.length + 1
      let next := code + (place + distance) / length
      let index := (place + distance) % length
      if next.isValidChar then
        insertAll? (nextBias distance length (place == 0)) next (index + 1)
          (text.take index ++ Char.ofNat next :: text.drop index) rest
      else none
termination_by cs.length
decreasing_by exact readNumber?_shorter (by assumption)

/-- The text that is encoded after the last hyphen, around the characters before it. -/
def decode? (cs : List Char) : Option (List Char) :=
  let coded := (cs.reverse.takeWhile (· != '-')).reverse
  insertAll? 72 0x80 0 (cs.take (cs.length - coded.length - 1)) coded

end ReactiveContract.Network.Punycode
