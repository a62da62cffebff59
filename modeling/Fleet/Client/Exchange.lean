/-
Requests under way. An exchange ends with a reply or without one; what it comes to is decided by
the status first and then by the body, and every failure names the URL of the request.
-/
import Fleet.Client.Operation

namespace Fleet

/-! ## URLs of requests -/

/-- The characters of a host that a request cannot be sent to although a URL may have them. -/
def Url.isUnsendable (c : Char) : Bool :=
  c == '"' || c == '`' || c == '\x7b' || c == '\x7d'

/-- Whether a request can be sent to the URL. -/
def Url.isSendable (url : Url) : Bool := !url.host.any fun host => host.chars.any isUnsendable

/-- The words for a request that cannot be made. -/
def unmadeText : String := "HTTP request failed: builder error"

/-- The URL of a request to an endpoint. -/
def ApiBase.requestUrl (base : ApiBase) (path : String) : Except Failure Url := do
  let text ← (base.endpoint path).mapError fun bad => .invalid bad.toInvalid
  let url ← (Url.parse text).mapError fun _ => .connection unmadeText
  if url.isSendable then return url
  else throw (.connection s!"{unmadeText} for url ({url.toText})")

/-! ## Exchanges -/

/-- What a request is made for. -/
inductive Purpose where
  | listing (key : ResourceKey)
  | blueprint (id : ResourceId)
  /-- The JSON at a path. -/
  | value (path : String)
  | change (change : Change)
deriving DecidableEq

namespace Purpose

/-- The method of the request. -/
def method : Purpose → Method
  | change c => c.method
  | _ => .get

/-- The path of the request. -/
def path : Purpose → String
  | listing key => key.path
  | blueprint id => blueprintPath id
  | value path => path
  | change c => c.path

/-- The body of the request. -/
def body : Purpose → Option Draft
  | change c => c.body
  | _ => none

end Purpose

/-- A request to be made, and the call it is made for. -/
structure Errand where
  call : Nat
  purpose : Purpose
deriving DecidableEq

/-- A request under way. -/
structure Exchange extends Errand where
  request : Request
deriving DecidableEq

namespace Exchange

/-- The failure of an exchange without a reply. -/
def unanswered (exchange : Exchange) : Failure :=
  .connection
    s!"HTTP request failed: error sending request for url ({exchange.request.url.toText})"

/-- The failure of an exchange whose reply cannot be used. -/
def unusable (exchange : Exchange) : Failure :=
  .payload
    s!"Failed to parse response: error decoding response body for url ({exchange.request.url.toText})"

/-- What an exchange comes to: what is made of the body of an accepted reply. -/
def result {α : Type} (exchange : Exchange) (decode? : Reply → Option α) :
    Option Reply → Except Failure α
  | none => .error exchange.unanswered
  | some reply =>
    if reply.isAccepted then
      match decode? reply with
      | some value => .ok value
      | none => .error exchange.unusable
    else .error reply.refusal

/-- What the reply to a request for a listing comes to. -/
def outcome (exchange : Exchange) (key : ResourceKey) (reply : Option Reply) :
    Except Failure (List key.Item) :=
  exchange.result (fun reply => reply.json?.map (Listing.decode key)) reply

end Exchange

end Fleet
