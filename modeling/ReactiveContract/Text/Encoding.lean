import ReactiveContract.Text.CodePoint
/-! Bytes read as text in one of the Unicode encodings. Surrogates are read like other code points. -/
namespace ReactiveContract.Text

inductive Encoding where
  | utf8
  | utf16 (bigEndian : Bool)
  | utf32 (bigEndian : Bool)
  deriving DecidableEq, Repr

inductive DecodingReason where
  | startByte
  | continuationByte
  | endOfData
  | truncated
  | outOfRange
  deriving DecidableEq, Repr

/-- The bytes that cannot be read: `first` is the byte at offset `start`, `size` their number. -/
structure DecodingFault where
  encoding : Encoding
  start : Nat
  size : Nat
  first : Nat
  reason : DecodingReason
  deriving DecidableEq, Repr

/-- One code point and how many bytes it takes, or how many bytes are at fault and why. -/
inductive DecodingStep where
  | point (point size : Nat)
  | fault (size : Nat) (reason : DecodingReason)
  deriving Repr

/-- For a lead byte: its bits, the number of bytes to follow and the range of the first of them. -/
def leadByte? (b : Nat) : Option (Nat × Nat × Nat × Nat) :=
  if b < 0xc2 then none
  else if b < 0xe0 then some (b - 0xc0, 1, 0x80, 0xbf)
  else if b = 0xe0 then some (0, 2, 0xa0, 0xbf)
  else if b = 0xed then some (0xd, 2, 0x80, 0x9f)
  else if b < 0xf0 then some (b - 0xe0, 2, 0x80, 0xbf)
  else if b = 0xf0 then some (0, 3, 0x90, 0xbf)
  else if b < 0xf4 then some (b - 0xf0, 3, 0x80, 0xbf)
  else if b = 0xf4 then some (4, 3, 0x80, 0x8f)
  else none

/-- Reads the bytes that follow a lead byte. -/
def tailBytes (point taken : Nat) : Nat → Nat → Nat → List Nat → DecodingStep
  | 0, _, _, _ => .point point taken
  | _ + 1, _, _, [] => .fault taken .endOfData
  | n + 1, lo, hi, b :: rest =>
    if lo ≤ b ∧ b ≤ hi then tailBytes (point * 0x40 + (b - 0x80)) (taken + 1) n 0x80 0xbf rest
    else .fault taken .continuationByte

def utf8Step : List Nat → DecodingStep
  | [] => .fault 0 .endOfData
  | b :: rest =>
    if b < 0x80 then .point b 1
    else match leadByte? b with
      | none => .fault 1 .startByte
      | some (point, n, lo, hi) =>
        match b, rest with
        | 0xed, b :: c :: _ =>
          if 0xa0 ≤ b ∧ b ≤ 0xbf ∧ 0x80 ≤ c ∧ c ≤ 0xbf then
            .point (0xd000 + (b - 0x80) * 0x40 + (c - 0x80)) 3
          else tailBytes point 1 n lo hi rest
        | _, _ => tailBytes point 1 n lo hi rest

/-- The number that some bytes spell. -/
def word (bigEndian : Bool) (bytes : List Nat) : Nat :=
  (if bigEndian then bytes else bytes.reverse).foldl (fun n b => 0x100 * n + b) 0

def utf16Step (bigEndian : Bool) : List Nat → DecodingStep
  | a :: b :: rest =>
    let high := word bigEndian [a, b]
    match rest with
    | c :: d :: _ =>
      let low := word bigEndian [c, d]
      if 0xd800 ≤ high ∧ high < 0xdc00 ∧ 0xdc00 ≤ low ∧ low < 0xe000 then
        .point (0x10000 + (high - 0xd800) * 0x400 + (low - 0xdc00)) 4
      else .point high 2
    | _ => .point high 2
  | bytes => .fault bytes.length .truncated

def utf32Step (bigEndian : Bool) : List Nat → DecodingStep
  | a :: b :: c :: d :: _ =>
    let point := word bigEndian [a, b, c, d]
    if 0x110000 ≤ point then .fault 4 .outOfRange
    else .point point 4
  | bytes => .fault bytes.length .truncated

def Encoding.step : Encoding → List Nat → DecodingStep
  | .utf8 => utf8Step
  | .utf16 bigEndian => utf16Step bigEndian
  | .utf32 bigEndian => utf32Step bigEndian

/-- Reads at most the given number of code points from bytes that begin at an offset. -/
def Encoding.decodeFrom (encoding : Encoding) :
    Nat → Nat → List Nat → Except DecodingFault (List Char)
  | 0, _, _ => .ok []
  | _, _, [] => .ok []
  | fuel + 1, start, b :: rest =>
    match encoding.step (b :: rest) with
    | .point point size =>
      (encoding.decodeFrom fuel (start + size) (rest.drop (size - 1))).map (spell point ++ ·)
    | .fault size reason => .error ⟨encoding, start, size, b, reason⟩

def Encoding.decode (encoding : Encoding) (start : Nat) (bytes : List Nat) :
    Except DecodingFault (List Char) :=
  encoding.decodeFrom bytes.length start bytes

/-- The encoding that the first bytes of a JSON text announce, the offset at which they are counted,
and the bytes after the mark. -/
def detectEncoding (bytes : List Nat) : Encoding × Nat × List Nat :=
  match bytes with
  | 0 :: 0 :: 0xfe :: 0xff :: rest => (.utf32 true, 4, rest)
  | 0xff :: 0xfe :: 0 :: 0 :: rest => (.utf32 false, 4, rest)
  | 0xfe :: 0xff :: rest => (.utf16 true, 2, rest)
  | 0xff :: 0xfe :: rest => (.utf16 false, 2, rest)
  | 0xef :: 0xbb :: 0xbf :: rest => (.utf8, 0, rest)
  | 0 :: 0 :: _ :: _ :: _ => (.utf32 true, 0, bytes)
  | 0 :: _ :: _ :: _ :: _ => (.utf16 true, 0, bytes)
  | _ :: 0 :: 0 :: 0 :: _ => (.utf32 false, 0, bytes)
  | _ :: 0 :: _ :: _ :: _ => (.utf16 false, 0, bytes)
  | [0, _] => (.utf16 true, 0, bytes)
  | [_, 0] => (.utf16 false, 0, bytes)
  | _ => (.utf8, 0, bytes)

/-- Reads bytes in the encoding they announce. -/
def decodeDetected (bytes : List Nat) : Except DecodingFault String :=
  let (encoding, start, body) := detectEncoding bytes
  (encoding.decode start body).map String.ofList

def Encoding.name : Encoding → String
  | .utf8 => "utf-8"
  | .utf16 bigEndian => if bigEndian then "utf-16-be" else "utf-16-le"
  | .utf32 bigEndian => if bigEndian then "utf-32-be" else "utf-32-le"

def DecodingReason.message : DecodingReason → String
  | .startByte => "invalid start byte"
  | .continuationByte => "invalid continuation byte"
  | .endOfData => "unexpected end of data"
  | .truncated => "truncated data"
  | .outOfRange => "code point not in range(0x110000)"

end ReactiveContract.Text
