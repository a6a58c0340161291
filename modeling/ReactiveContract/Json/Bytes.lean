import ReactiveContract.Json.Reader
import ReactiveContract.Text.Encoding
import ReactiveContract.Text.Hexadecimal
/-! JSON given as bytes, and why a text or its bytes cannot be read. -/
namespace ReactiveContract.Json
open Text

inductive ReadError where
  | undecodable (fault : DecodingFault)
  | malformed (error : SyntaxError)
  deriving Repr

/-- Reads a JSON text in the encoding that its bytes announce. -/
def readBytes (bytes : List Nat) : Except ReadError Json :=
  match decodeDetected bytes with
  | .error fault => .error (.undecodable fault)
  | .ok text => (readDecoded text).mapError .malformed

/-- A single byte is shown with its value, several by their range. -/
def ReadError.message : ReadError → String
  | .malformed error => error.message
  | .undecodable fault =>
    let place :=
      if fault.size = 1 then
        s!"byte 0x{String.ofList (hexDigits 2 fault.first)} in position {fault.start}"
      else s!"bytes in position {fault.start}-{fault.start + fault.size - 1}"
    s!"'{fault.encoding.name}' codec can't decode {place}: {fault.reason.message}"

end ReactiveContract.Json
