import ReactiveContract.Explorer.Url
/-! Where an answer sends the client, and what is wrong with that. -/
namespace ReactiveContract.Explorer
open Network Text

/-- Why a redirect leads nowhere. -/
inductive RedirectFault where
  | locationInvalid (fault : UrlFault)
  | targetInvalid
  | targetUnreadable
  deriving DecidableEq, Repr

/-- A URL from its parts, if there is one. -/
def targetOf (parts : UrlParts) : Except RedirectFault Url :=
  parts.normal.mapError fun _ => .targetInvalid

namespace Url

/-- Whether a location has nothing in it. -/
def isBlank (url : Url) : Bool :=
  url.place.isEmpty && url.query.isNone && url.fragment.isNone

/-- A location without a scheme, seen from the URL of the request. -/
def join (request target : Url) : Except RedirectFault Url := do
  let origin ← (Origin.ofUrl (String.ofList target.place)).mapError fun _ => .targetUnreadable
  let scheme := origin.scheme.toList
  if !scheme.isEmpty && scheme != request.scheme then
    targetOf { UrlParts.ofText target.place with fragment := target.fragment }
  else if !origin.authority.isEmpty then
    targetOf { target.parts with
      scheme := request.scheme, authority := origin.authority, path := [] }
  else
    let fragment := if target.isBlank then request.fragment else target.fragment
    return { request with fragment }

/-- Whether a fragment has an encoded control character. -/
def hidesControl : List Char → Bool
  | '%' :: high :: low :: rest =>
    let hides := match hexValue? high, hexValue? low with
      | some h, some l => isControl (Char.ofNat (16 * h + l))
      | _, _ => false
    hides || hidesControl (high :: low :: rest)
  | _ :: rest => hidesControl rest
  | [] => false

/-- The fragment of the request goes along with a target that has none. -/
def withFragmentOf (target request : Url) : Except RedirectFault Url :=
  let fragment := request.fragment.getD []
  if fragment.isEmpty || !(target.fragment.getD []).isEmpty then .ok target
  else if hidesControl fragment then .error .targetInvalid
  else targetOf { target.parts with fragment := some fragment }

/-- The URL that a location means as the answer to a request. -/
def redirect (request : Url) (location : String) : Except RedirectFault Url := do
  let target ← (Url.read location).mapError .locationInvalid
  if !target.scheme.isEmpty && !target.hostReads then throw .targetUnreadable
  let target ←
    if target.isAbsolute then pure target
    else if target.scheme.isEmpty then request.join target
    else
      match checkPath true true target.path with
      | .ok _ => pure { target with host := request.host }
      | .error _ => throw .targetInvalid
  let target ← target.withFragmentOf request
  if target.hostReads then return target else throw .targetUnreadable

end Url
end ReactiveContract.Explorer
