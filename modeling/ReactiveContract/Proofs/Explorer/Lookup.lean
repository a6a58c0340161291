import ReactiveContract.Proofs.Abi.Selection
import ReactiveContract.Proofs.Explorer.Request
import ReactiveContract.Proofs.Inquiry
/-! Which answers of an explorer describe a contract, and what all others come to. -/
namespace ReactiveContract.Explorer
open Document Outcome

/-- An address as a value spells it. -/
def Names (address : Json) (a : Address) : Prop :=
  ∃ text, address = .str text ∧ Address.read? text = some a

/-- An answer vouches for some entries if its status displays as 1 and it has them as the list
`abi`, or, without such a list, as the text of a list. -/
structure Vouches (fields : Fields) (entries : List Json) : Prop where
  verified : ∃ status, Fields.get? fields "status" = some status ∧ status.display = "1"
  listed : Fields.get? fields "abi" = some (.arr entries)
    ∨ (∀ items, Fields.get? fields "abi" ≠ some (.arr items))
      ∧ ∃ text, Fields.get? fields "result" = some (.str text)
        ∧ Json.read text = .ok (.arr entries)

/-- An answer that the client takes in: its headers are readable, and it is from a place that the
client can connect to. -/
def TakenIn (url : Url) (headers : List (String × String)) : Prop :=
  headersAreReadable headers = true ∧ url.isAbsolute = true

namespace HttpReply

/-- The request has succeeded, and the value is the body. -/
def Carries (url : Url) (payload : Json) : HttpReply → Prop
  | .answered status headers body =>
    TakenIn url headers ∧ isSuccess status = true ∧ Json.readBytes body = .ok payload
  | .failed _ | .timedOut => False

/-- The reply to a request for an address describes the contract. -/
def Describes (url : Url) (a : Address) (reply : HttpReply) (d : Description) : Prop :=
  d.address = a.text ∧ (Abi.events (.arr d.abi)).outcome = .ok d.events
    ∧ Abi.callees (.arr d.abi) = .ok d.callees
    ∧ ∃ fields, reply.Carries url (.obj fields) ∧ Vouches fields d.abi

end HttpReply

/-- The body of a success is an interface in which a garbled name gets in the way. -/
def HttpReply.Garbles (url : Url) (reply : HttpReply) : Prop :=
  ∃ fields entries, reply.Carries url (.obj fields) ∧ Vouches fields entries ∧ Abi.Garbles entries

section Payload
variable {o : ExplorerOptions} {url : Url} {a : Address}

theorem HttpReply.Carries.unique {reply : HttpReply} {payload other : Json}
    (h : reply.Carries url payload) (h' : reply.Carries url other) : payload = other := by
  cases reply with
  | answered status headers body =>
    obtain ⟨-, -, hread⟩ := h
    obtain ⟨-, -, hread'⟩ := h'
    exact Except.ok.inj (hread.symm.trans hread')
  | failed text => exact h.elim
  | timedOut => exact h.elim

end Payload

section Entries
variable {a : Address} {payload : Json} {entries : List Json}

end Entries

section Parts
variable {address : Json} {a : Address} {entries : List Json}

end Parts

section Settling
variable {url : Url} {a : Address} {reply : HttpReply}

end Settling

/-- How a lookup ends, and what it asks for, at an explorer that has one reply to everything. -/
def lookup (o : ExplorerOptions) (address : Json) (reply : HttpReply) :
    Except Failure Description × List HttpRequest :=
  (describe o address).against (fun question asked => (reply, asked ++ [question])) []

section Lookup
variable {o : ExplorerOptions} {address : Json} {reply : HttpReply}

variable {a : Address}

end Lookup

end ReactiveContract.Explorer
