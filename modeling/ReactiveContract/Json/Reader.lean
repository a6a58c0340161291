import ReactiveContract.Json.Basic
import ReactiveContract.Text.CodePoint
import ReactiveContract.Text.DecimalDigit
import ReactiveContract.Text.Hexadecimal
/-! Reading JSON texts, with the place and the cause of the first fault. -/
namespace ReactiveContract.Json
open Text

inductive SyntaxCause where
  | valueExpected
  | keyExpected
  | colonExpected
  | commaExpected
  | extraData
  | unterminatedString
  | controlCharacter
  | badEscape
  | badUnicodeEscape
  | byteOrderMark
  | integerTooLong (digits : Nat)
  deriving DecidableEq, Repr

/-- A fault and the part of the text that begins at it. -/
structure SyntaxFault where
  cause : SyntaxCause
  rest : List Char

def isSpace (c : Char) : Bool := c = ' ' || c = '\t' || c = '\n' || c = '\r'

def skipSpace (cs : List Char) : List Char := cs.dropWhile isSpace

/-- The number of four hexadecimal digits at the head of a text. -/
def hexQuad? : List Char → Option (Nat × List Char)
  | a :: b :: c :: d :: rest => do
    let ds ← [a, b, c, d].mapM hexValue?
    return (ofHexDigits ds, rest)
  | _ => none

/-- The second half of a surrogate pair, as the code point of the whole pair; some text has to
follow. -/
def surrogatePair? (high : Nat) : List Char → Option (Nat × List Char)
  | '\\' :: 'u' :: rest => do
    let (low, rest) ← hexQuad? rest
    if 0xdc00 ≤ low ∧ low < 0xe000 ∧ rest ≠ [] then
      return (0x10000 + (high - 0xd800) * 0x400 + (low - 0xdc00), rest)
    else none
  | _ => none

/-- Whether a text begins with another escape of a code unit that is no number. -/
def brokenPair : List Char → Bool
  | '\\' :: 'u' :: a :: b :: c :: d :: _ :: _ => (hexQuad? [a, b, c, d]).isNone
  | _ => false

/-- The code point of an escape whose four digits follow `u`; some text has to follow them. -/
def unicodeEscape (start : List Char) (rest : List Char) : Except SyntaxFault (Nat × List Char) :=
  match hexQuad? rest with
  | none => .error ⟨.badUnicodeEscape, start⟩
  | some (_, []) => .error ⟨.badUnicodeEscape, start⟩
  | some (unit, rest) =>
    if 0xd800 ≤ unit ∧ unit < 0xdc00 then
      if brokenPair rest then .error ⟨.badUnicodeEscape, rest.drop 1⟩
      else .ok ((surrogatePair? unit rest).getD (unit, rest))
    else .ok (unit, rest)

def simpleEscape? : Char → Option Char
  | '"' => some '"'
  | '\\' => some '\\'
  | '/' => some '/'
  | 'b' => some '\x08'
  | 'f' => some '\x0c'
  | 'n' => some '\n'
  | 'r' => some '\r'
  | 't' => some '\t'
  | _ => none

/-- The rest of a string after its opening quote; `opening` begins at that quote, and the first
argument bounds the number of characters. -/
def scanString (opening : List Char) :
    Nat → List Char → List Char → Except SyntaxFault (String × List Char)
  | 0, _, _ => .error ⟨.unterminatedString, opening⟩
  | fuel + 1, done, cs =>
    match cs with
    | [] => .error ⟨.unterminatedString, opening⟩
    | '"' :: rest => .ok (String.ofList done.reverse, rest)
    | '\\' :: [] => .error ⟨.unterminatedString, opening⟩
    | '\\' :: 'u' :: rest => do
      let (point, rest) ← unicodeEscape ('u' :: rest) rest
      scanString opening fuel ((spell point).reverse ++ done) rest
    | '\\' :: c :: rest =>
      match simpleEscape? c with
      | some e => scanString opening fuel (e :: done) rest
      | none => .error ⟨.badEscape, cs⟩
    | c :: rest =>
      if c.toNat < 0x20 then .error ⟨.controlCharacter, cs⟩
      else scanString opening fuel (c :: done) rest

/-- The digits of a whole number: a lone zero, or a run that begins with none. -/
def wholeDigits : List Char → List Char
  | '0' :: _ => ['0']
  | cs => cs.takeWhile Char.isDigit

/-- A fraction at the head of a text. -/
def fractionDigits : List Char → List Char
  | '.' :: rest => rest.takeWhile Char.isDigit
  | _ => []

/-- An exponent at the head of a text and how many characters it takes. -/
def exponentAt : List Char → Option (Int × Nat)
  | e :: rest =>
    if e = 'e' ∨ e = 'E' then
      let (negative, body) := splitSign rest
      let ds := body.takeWhile Char.isDigit
      if ds = [] then none
      else some (signed negative (ofDigits (ds.filterMap asciiDigit?)),
        1 + (rest.length - body.length) + ds.length)
    else none
  | [] => none

/-- The longest number at the head of a text. -/
def scanNumber (cs : List Char) : Except SyntaxFault (Json × List Char) :=
  let (negative, body) := match cs with
    | '-' :: rest => (true, rest)
    | cs => (false, cs)
  let whole := wholeDigits body
  if whole = [] then .error ⟨.valueExpected, cs⟩
  else
    let rest := body.drop whole.length
    let fraction := fractionDigits rest
    let rest := if fraction = [] then rest else rest.drop (fraction.length + 1)
    let digits := (whole ++ fraction).filterMap asciiDigit?
    match exponentAt rest with
    | some (e, taken) =>
      .ok (.float (.ofDecimal negative (ofDigits digits) (e - fraction.length)), rest.drop taken)
    | none =>
      if fraction = [] then
        if maxDigits < digits.length then .error ⟨.integerTooLong digits.length, cs⟩
        else .ok (.int (signed negative (ofDigits digits)), rest)
      else .ok (.float (.ofDecimal negative (ofDigits digits) (-fraction.length)), rest)

/-- A word or a number. -/
def scanScalar (cs : List Char) : Except SyntaxFault (Json × List Char) :=
  match cs with
  | 'n' :: 'u' :: 'l' :: 'l' :: rest => .ok (.null, rest)
  | 't' :: 'r' :: 'u' :: 'e' :: rest => .ok (.bool true, rest)
  | 'f' :: 'a' :: 'l' :: 's' :: 'e' :: rest => .ok (.bool false, rest)
  | 'N' :: 'a' :: 'N' :: rest => .ok (.float .nan, rest)
  | 'I' :: 'n' :: 'f' :: 'i' :: 'n' :: 'i' :: 't' :: 'y' :: rest =>
    .ok (.float (.infinite false), rest)
  | '-' :: 'I' :: 'n' :: 'f' :: 'i' :: 'n' :: 'i' :: 't' :: 'y' :: rest =>
    .ok (.float (.infinite true), rest)
  | cs => scanNumber cs

/-- A string whose opening quote is the first character. -/
def scanQuoted (cs : List Char) : Except SyntaxFault (String × List Char) :=
  scanString cs cs.length [] (cs.drop 1)

mutual

/-- A value at the head of a text; the first argument bounds its nesting and its length. -/
def scanValue : Nat → List Char → Except SyntaxFault (Json × List Char)
  | 0, cs => .error ⟨.valueExpected, cs⟩
  | fuel + 1, cs =>
    match cs with
    | '"' :: _ => do
      let (s, rest) ← scanQuoted cs
      return (.str s, rest)
    | '[' :: rest =>
      match skipSpace rest with
      | ']' :: rest => .ok (.arr [], rest)
      | rest => scanItems fuel [] rest
    | '\x7b' :: rest =>
      match skipSpace rest with
      | '\x7d' :: rest => .ok (.obj [], rest)
      | rest => scanFields fuel [] rest
    | cs => scanScalar cs

/-- The items of an array from the next one on. -/
def scanItems : Nat → List Json → List Char → Except SyntaxFault (Json × List Char)
  | 0, _, cs => .error ⟨.valueExpected, cs⟩
  | fuel + 1, done, cs => do
    let (item, rest) ← scanValue fuel cs
    match skipSpace rest with
    | ']' :: rest => .ok (.arr (item :: done).reverse, rest)
    | ',' :: rest => scanItems fuel (item :: done) (skipSpace rest)
    | rest => .error ⟨.commaExpected, rest⟩

/-- The fields of an object from the next one on. -/
def scanFields : Nat → Fields → List Char → Except SyntaxFault (Json × List Char)
  | 0, _, cs => .error ⟨.keyExpected, cs⟩
  | fuel + 1, done, cs =>
    match cs with
    | '"' :: _ => do
      let (key, rest) ← scanQuoted cs
      match skipSpace rest with
      | ':' :: rest =>
        let (value, rest) ← scanValue fuel (skipSpace rest)
        let done := Fields.insert key value done
        match skipSpace rest with
        | '\x7d' :: rest => .ok (.obj done, rest)
        | ',' :: rest => scanFields fuel done (skipSpace rest)
        | rest => .error ⟨.commaExpected, rest⟩
      | rest => .error ⟨.colonExpected, rest⟩
    | cs => .error ⟨.keyExpected, cs⟩

end

/-- Why a text is no JSON, and where: the offset counts code points from zero, the line and the
column from one. -/
structure SyntaxError where
  cause : SyntaxCause
  line : Nat
  column : Nat
  offset : Nat
  deriving DecidableEq, Repr

/-- Places a fault in the text it was found in. -/
def SyntaxError.ofFault (text : List Char) (fault : SyntaxFault) : SyntaxError :=
  let before := text.take (text.length - fault.rest.length)
  { cause := fault.cause
    line := 1 + before.count '\n'
    column := 1 + (spellings (before.reverse.takeWhile (· != '\n')).reverse).length
    offset := (spellings before).length }

/-- The one value of a text, with nothing but space around it. -/
def scanText (cs : List Char) : Except SyntaxFault Json := do
  let (value, rest) ← scanValue (2 * cs.length + 2) (skipSpace cs)
  match skipSpace rest with
  | [] => return value
  | rest => throw ⟨.extraData, rest⟩

/-- Reads a text that was decoded from bytes, its byte order mark included. -/
def readDecoded (text : String) : Except SyntaxError Json :=
  (scanText text.toList).mapError (SyntaxError.ofFault text.toList)

/-- Reads a JSON text, which may not begin with a byte order mark. -/
def read (text : String) : Except SyntaxError Json :=
  if text.toList.head? = some '\ufeff' then
    .error (SyntaxError.ofFault text.toList ⟨.byteOrderMark, text.toList⟩)
  else readDecoded text

def SyntaxCause.message : SyntaxCause → String
  | .valueExpected => "Expecting value"
  | .keyExpected => "Expecting property name enclosed in double quotes"
  | .colonExpected => "Expecting ':' delimiter"
  | .commaExpected => "Expecting ',' delimiter"
  | .extraData => "Extra data"
  | .unterminatedString => "Unterminated string starting at"
  | .controlCharacter => "Invalid control character at"
  | .badEscape => "Invalid \\escape"
  | .badUnicodeEscape => "Invalid \\uXXXX escape"
  | .byteOrderMark => "Unexpected UTF-8 BOM (decode using utf-8-sig)"
  | .integerTooLong digits =>
    s!"Exceeds the limit ({maxDigits} digits) for integer string conversion: value has {digits} digits; use sys.set_int_max_str_digits() to increase the limit"

def SyntaxError.message (e : SyntaxError) : String :=
  match e.cause with
  | .integerTooLong _ => e.cause.message
  | cause => s!"{cause.message}: line {e.line} column {e.column} (char {e.offset})"

end ReactiveContract.Json
