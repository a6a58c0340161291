import ReactiveContract.Abi.Fault
/-! The shapes in which interfaces are handed over. -/
namespace ReactiveContract.Abi

/-- An interface as it is handed over: a value, or a document that is still to be read. -/
inductive Handover where
  | value (j : Json)
  | bytes (bs : List Nat)

/-- The entries behind a key `result` that holds a JSON text. -/
def ofEnvelope (fields : Fields) : Except Fault (List Json) :=
  match Fields.get? fields "result" with
  | some (.str result) =>
    match Json.read result with
    | .ok (.arr items) => .ok items
    | .ok _ => .error .formUnknown
    | .error _ => .error (.resultNotJson result)
  | _ => .error .formUnknown

/-- A list of entries, an object with the list `abi`, or an explorer's envelope. -/
def ofValue : Json → Except Fault (List Json)
  | .arr items => .ok items
  | .obj fields =>
    match Fields.get? fields "abi" with
    | some (.arr items) => .ok items
    | _ => ofEnvelope fields
  | _ => .error .formUnknown

/-- A text is read as JSON first. -/
def load : Handover → Except Fault (List Json)
  | .value (.str text) =>
    match Json.read text with
    | .ok j => ofValue j
    | .error e => .error (.notJson (.malformed e))
  | .value j => ofValue j
  | .bytes bs =>
    match Json.readBytes bs with
    | .ok j => ofValue j
    | .error e => .error (.notJson e)

end ReactiveContract.Abi
