import UploadHooks.Text.Utf8
import UploadHooks.Url.Basic
import UploadHooks.Url.Percent

/-!
# Requests and what becomes of them

The services behind the hooks are reached over HTTP. A service is known
by what becomes of the attempts to get something from it, one after the
other, and that is a `Script`: a list of outcomes, of which each attempt
takes the next. Once the list is used up nobody listens any more, so every
script answers every request. An outcome is what an attempt ends in. If the
service redirects the request, that is how the last redirection ends.

A request to a URL that is not a web address, or that no request line can
hold, never leaves. It is an attempt all the same, but takes no outcome
from the script.

The user name and password of a URL travel in a header of the request, so
the URL of the request is written without them. They have to be text for
that: credentials that cannot be decoded stay where they are. A password
that cannot be decoded counts as none.
-/

namespace UploadHooks

/-! ## Credentials -/

/-- Whether the credentials can go into a header. There have to be some. -/
def Authority.hasReadableCredentials (a : Authority) : Bool :=
  match Url.Percent.decodeText? a.username with
  | none => false
  | some user => user != "" || (a.password != "" && (Url.Percent.decodeText? a.password).isSome)

def Authority.withoutCredentials (a : Authority) : Authority :=
  if a.hasReadableCredentials then { a with username := "", password := "" } else a

namespace Url

/-- The URL as the request has it. -/
def withoutCredentials (u : Url) : Url :=
  match u.front with
  | .authority a => { u with front := .authority a.withoutCredentials }
  | _ => u

end Url

/-! ## Requests and outcomes -/

namespace Http

inductive Method where
  | get
  | post
  | put
  deriving DecidableEq, Repr

def Method.text : Method → String
  | .get => "GET"
  | .post => "POST"
  | .put => "PUT"

/-- A request; a body is always JSON. -/
structure Request where
  method : Method
  url : Url
  body : Option String
  deriving DecidableEq, Repr

/-- A body arrives as a whole or breaks off on the way. -/
inductive Body where
  | complete (bytes : List UInt8)
  | brokenOff
  deriving DecidableEq, Repr

/-- A response, with the values of its `Retry-After` lines in order. -/
structure Response where
  status : Nat
  retryAfter : List (List UInt8)
  body : Body
  deriving DecidableEq, Repr

namespace Response

def isSuccess (r : Response) : Bool := 200 ≤ r.status && r.status < 300

/-- Too many requests, or temporarily unavailable. -/
def isThrottled (r : Response) : Bool := r.status == 429 || r.status == 503

end Response

inductive Outcome where
  | responded (response : Response)
  | dropped
  | unreachable
  | timedOut
  | unsendable
  deriving DecidableEq, Repr

/-- Whether the service got to see the request. -/
def Outcome.isReceived : Outcome → Bool
  | .responded _ => true
  | .dropped => true
  | .unreachable => false
  | .timedOut => true
  | .unsendable => false

/-- A request, which may have left or not, together with its outcome. -/
structure Attempt where
  request : Request
  outcome : Outcome
  deriving DecidableEq, Repr

abbrev Script := List Outcome

/-- The URL as the request and faults show it. -/
def Request.shownUrl (r : Request) : String := r.url.withoutCredentials.text

/-- The longest URL of a request, in bytes. -/
def longestUrl : Nat := 65534

/-- Characters that a host may have but a request cannot name. -/
def unnameable : List Char := ['"', '\x60', '\x7b', '\x7d']

/-- Whether the request can be sent. -/
def Request.isSendable (r : Request) : Bool :=
  r.url.isWeb && !r.url.host.toList.any unnameable.contains &&
    r.shownUrl.utf8ByteSize ≤ longestUrl

/-- The outcome of a request, and what is left of the script. -/
def Script.answer (request : Request) (script : Script) : Outcome × Script :=
  if request.isSendable then
    match script with
    | [] => (.unreachable, [])
    | outcome :: rest => (outcome, rest)
  else (.unsendable, script)

/-! ## Transport faults -/

/-- Why there is no response, or no body. -/
inductive TransportFault where
  | sending (url : String)
  | building (url : String)
  | decodingBody
  deriving DecidableEq, Repr

def TransportFault.message : TransportFault → String
  | .sending url => "error sending request for url (" ++ url ++ ")"
  | .building url => "builder error for url (" ++ url ++ ")"
  | .decodingBody => "error decoding response body"

/-- The text of a body. One that broke off cannot be read. -/
def Body.text : Body → Except TransportFault String
  | .complete bytes => .ok (Utf8.lossyText bytes)
  | .brokenOff => .error .decodingBody

end Http

end UploadHooks
