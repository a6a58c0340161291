/-! The Keccak-256 hash of a byte string. -/
namespace ReactiveContract.Keccak256

/-- Twenty-five lanes of 64 bits; lane `x + 5 * y` stands in column `x` and row `y`. -/
abbrev State := Vector UInt64 25

def lane (s : State) (i : Nat) : UInt64 := s.get ⟨i % 25, Nat.mod_lt _ (by decide)⟩

def rotateLeft (w : UInt64) (n : Nat) : UInt64 :=
  if n % 64 = 0 then w else (w <<< UInt64.ofNat (n % 64)) ||| (w >>> UInt64.ofNat (64 - n % 64))

/-- By how many bits each lane is rotated. -/
def rotations : Vector Nat 25 :=
  #v[0, 1, 62, 28, 27, 36, 44, 6, 55, 20, 3, 10, 43, 25, 39, 41, 45, 15, 21, 8, 18, 2, 61, 56, 14]

def roundConstants : List UInt64 := [
  0x0000000000000001, 0x0000000000008082, 0x800000000000808a, 0x8000000080008000,
  0x000000000000808b, 0x0000000080000001, 0x8000000080008081, 0x8000000000008009,
  0x000000000000008a, 0x0000000000000088, 0x0000000080008009, 0x000000008000000a,
  0x000000008000808b, 0x800000000000008b, 0x8000000000008089, 0x8000000000008003,
  0x8000000000008002, 0x8000000000000080, 0x000000000000800a, 0x800000008000000a,
  0x8000000080008081, 0x8000000000008080, 0x0000000080000001, 0x8000000080008008]

/-- The exclusive or of a column. -/
def columnParity (s : State) (x : Nat) : UInt64 :=
  lane s x ^^^ lane s (x + 5) ^^^ lane s (x + 10) ^^^ lane s (x + 15) ^^^ lane s (x + 20)

/-- Every lane takes in the parities of two neighbouring columns. -/
def mixColumns (s : State) : State :=
  let parity : Vector UInt64 5 := Vector.ofFn fun x => columnParity s x.val
  let at5 (x : Nat) : UInt64 := parity.get ⟨x % 5, Nat.mod_lt _ (by decide)⟩
  let change : Vector UInt64 5 :=
    Vector.ofFn fun x => at5 (x.val + 4) ^^^ rotateLeft (at5 (x.val + 1)) 1
  Vector.ofFn fun i => s.get i ^^^ change.get ⟨i.val % 5, Nat.mod_lt _ (by decide)⟩

/-- Lane `(x, y)` is rotated and moves to column `y` and row `2 * x + 3 * y`. -/
def rotateLanes (s : State) : State :=
  Vector.ofFn fun i =>
    let x := i.val % 5
    let y := i.val / 5
    let source := (x + 3 * y) % 5 + 5 * x
    rotateLeft (lane s source) (rotations.get ⟨source % 25, Nat.mod_lt _ (by decide)⟩)

/-- The nonlinear step along a row. -/
def mixRows (s : State) : State :=
  Vector.ofFn fun i =>
    let row := 5 * (i.val / 5)
    let x := i.val % 5
    s.get i ^^^ (~~~lane s (row + (x + 1) % 5) &&& lane s (row + (x + 2) % 5))

def round (s : State) (constant : UInt64) : State :=
  let s := mixRows (rotateLanes (mixColumns s))
  s.set 0 (s.get 0 ^^^ constant)

def permute (s : State) : State := roundConstants.foldl round s

/-- How many bytes a block holds. -/
def rate : Nat := 136

/-- Pads to a whole number of blocks. -/
def pad (message : List UInt8) : List UInt8 :=
  let free := rate - message.length % rate
  if free = 1 then message ++ [0x81]
  else message ++ 0x01 :: List.replicate (free - 2) 0 ++ [0x80]

/-- The word that bytes spell, least significant first. -/
def littleEndian (bytes : List UInt8) : UInt64 :=
  bytes.foldr (fun b w => (w <<< 8) ||| b.toUInt64) 0

/-- A block as lanes; the lanes past the rate are zero. -/
def blockLanes (block : List UInt8) : State :=
  let bytes := block.toArray
  Vector.ofFn fun i => littleEndian (bytes.extract (8 * i.val) (8 * i.val + 8)).toList

def absorb (s : State) (block : List UInt8) : State :=
  let words := blockLanes block
  permute (Vector.ofFn fun i => s.get i ^^^ words.get i)

/-- Absorbs the given number of blocks. -/
def absorbBlocks : Nat → State → List UInt8 → State
  | 0, s, _ => s
  | n + 1, s, bytes => absorbBlocks n (absorb s (bytes.take rate)) (bytes.drop rate)

/-- The bytes of a word, least significant first. -/
def wordBytes (w : UInt64) : List UInt8 :=
  (List.range 8).map fun i => (w >>> UInt64.ofNat (8 * i)).toUInt8

/-- The thirty-two bytes of the hash. -/
def hash (message : List UInt8) : List UInt8 :=
  let padded := pad message
  let s := absorbBlocks (padded.length / rate) (Vector.replicate 25 0) padded
  (List.range 4).flatMap fun i => wordBytes (lane s i)

end ReactiveContract.Keccak256
