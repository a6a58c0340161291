import ReactiveContract.Contract.Spec
import ReactiveContract.Solidity.Fragment
/-! The origins that the subscriptions of a contract name. -/
namespace ReactiveContract
open Solidity

/-- Constants for the origins, and the origin of each binding's subscription. -/
structure Origins where
  constants : List Constant
  criteria : List String
  deriving DecidableEq, Repr, Inhabited

namespace Origins

/-- A subscription with the zero address hears every contract. -/
def anyContract : String := "address(0)"

def violation (cause : Violation.Cause) : Violation := { cause, field := some "originAddresses" }

def sharedName : String := "ORIGIN_CONTRACT"

def numberedName (i : Nat) : String := s!"{sharedName}_{i}"

/-- A constant for each distinct origin, numbered by first appearance. -/
def ofEach (origins : List Address) : Origins :=
  let distinct := origins.eraseDups
  { constants := distinct.zipIdx.map fun (a, i) => ⟨"address", numberedName i, a.text⟩
    criteria := origins.map fun a => numberedName (distinct.idxOf a) }

/-- One constant for all bindings. -/
def ofShared (origin : Address) (bindings : Nat) : Origins :=
  { constants := [⟨"address", sharedName, origin.text⟩]
    criteria := List.replicate bindings sharedName }

def ofAny (bindings : Nat) : Origins :=
  { constants := [], criteria := List.replicate bindings anyContract }

/-- The origins that fit a topology and a number of bindings. -/
def of (topology : Topology) (origins : List Address) (bindings : Nat) :
    Except Violation Origins :=
  match topology with
  | .protocolToProtocol =>
    if origins.length = bindings then .ok (ofEach origins)
    else .error (violation (.originPerBinding bindings origins.length))
  | .originToProtocol =>
    match origins with
    | [origin] => .ok (ofShared origin bindings)
    | _ => .error (violation (.singleOrigin origins.length))
  | .blockchainWide =>
    match origins with
    | [] => .ok (ofAny bindings)
    | _ => .error (violation .noOrigin)

def ofSpec (spec : Spec) : Except Violation Origins :=
  of spec.settings.topology spec.settings.origins spec.bindings.length

end Origins
end ReactiveContract
