import ReactiveContract.Keccak256
import ReactiveContract.Text.Hexadecimal
/-! Addresses of 160 bits and their checksummed text. -/
namespace ReactiveContract
open Text

structure Address where
  word : BitVec 160
  deriving DecidableEq, Repr, Inhabited

namespace Address

/-- The text after a leading `0x` or `0X`. -/
def withoutMark : List Char → List Char
  | '0' :: 'x' :: rest => rest
  | '0' :: 'X' :: rest => rest
  | cs => cs

/-- Reads forty hexadecimal digits of either case, which `0x` may precede. -/
def read? (text : String) : Option Address := do
  let digits ← (withoutMark text.toList).mapM hexValue?
  if digits.length = 40 then
    some ⟨BitVec.ofNat 160 (ofHexDigits digits)⟩
  else none

/-- The forty lower-case digits. -/
def digits (a : Address) : List Char := hexDigits 40 a.word.toNat

/-- A letter is upper case where the hash of the lower-case digits has a digit of at least eight. -/
def checksumDigits (a : Address) : List Char :=
  let hash := nibbles (Keccak256.hash (a.digits.map fun c => UInt8.ofNat c.toNat))
  a.digits.zipWith (fun c h => if 8 ≤ h then c.toUpper else c) hash

/-- The checksummed text. -/
def text (a : Address) : String := String.ofList ('0' :: 'x' :: a.checksumDigits)

end Address
end ReactiveContract
