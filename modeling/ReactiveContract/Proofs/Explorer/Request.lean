import ReactiveContract.Explorer.Lookup
import ReactiveContract.Proofs.Outcome
import ReactiveContract.Proofs.Text.CodePoint
import ReactiveContract.Proofs.Text.Hexadecimal
/-! What a request to an explorer asks for: the interface at the checksummed address. -/
namespace ReactiveContract.Explorer
open Outcome Text

/-- The parts of a request with parameters, given the URL that is configured. -/
def Url.asked (configured : Url) (ps : List (String × String)) : UrlParts :=
  { (if configured.isAbsolute then configured else configured.onlyPath).parts with
    query := some (Explorer.query ps).toList }

end ReactiveContract.Explorer
