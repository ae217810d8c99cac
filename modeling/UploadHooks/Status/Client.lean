import UploadHooks.Session
import UploadHooks.Status.Call
import UploadHooks.Status.Policy
import UploadHooks.TraceSpan

/-!
# Talking to the status service

A call is attempted until an outcome decides it or the attempts of the
policy are used up:

- a success delivers the response;
- an overloaded service and one that cannot be reached in time are tried
  again, after a wait if attempts are left;
- any other status and any other transport fault fails at once.

`classify` says what one outcome means and `attemptsFrom` repeats it, counting
the attempts made and those left. All attempts of a call send the same
request.
-/

namespace UploadHooks

namespace Status

/-- Why a call failed. -/
inductive Fault where
  | transport (endpoint : Endpoint) (fault : Http.TransportFault)
  | refused (endpoint : Endpoint) (status : Nat) (body : String)
  | invalidResponse (endpoint : Endpoint) (body : String)
  | unavailable (endpoint : Endpoint) (attempts : Nat)
  | invalidUrl (endpoint : Endpoint) (base : String)
  deriving DecidableEq, Repr

namespace Fault

def endpoint : Fault → Endpoint
  | .transport e _ => e
  | .refused e _ _ => e
  | .invalidResponse e _ => e
  | .unavailable e _ => e
  | .invalidUrl e _ => e

def message : Fault → String
  | .transport e fault => "HTTP error calling " ++ e.label ++ ": " ++ fault.message
  | .refused e status body =>
    "processing status API " ++ e.label ++ " returned " ++ Nat.repr status ++ ": " ++ body
  | .invalidResponse e body => "Invalid PS API response from " ++ e.label ++ ": " ++ body
  | .unavailable e attempts =>
    "Unable to send successful request to PS API (" ++ e.label ++ ") after " ++
      Nat.repr attempts ++ " attempts"
  | .invalidUrl e base => "cannot build request URL for " ++ e.label ++ " from base " ++ base

/-- Whether the service was not there, as opposed to a failed exchange. -/
def isUnavailable : Fault → Bool
  | .unavailable _ _ => true
  | _ => false

end Fault

/-! ## Retries -/

/-- A successful response, and the number of the attempt it came on. -/
structure Delivery where
  response : Http.Response
  attempts : Nat
  deriving DecidableEq, Repr

/-- What an outcome means for its call. -/
inductive Decision where
  | delivered (response : Http.Response)
  | failed (fault : Fault)
  | again (event : Event) (delay : Duration)
  deriving DecidableEq, Repr

def classify (policy : RetryPolicy) (endpoint : Endpoint) (request : Http.Request) (attempt : Nat) :
    Http.Outcome → Decision
  | .responded r =>
    if r.isSuccess then .delivered r
    else if r.isThrottled then
      let delay := policy.throttleDelay r.retryAfter
      .again (.throttled delay endpoint.label attempt policy.maxAttempts r.status) delay
    else .failed (.refused endpoint r.status (r.body.text.toOption.getD ""))
  | .unreachable => .again (unreachable request) policy.delay
  | .timedOut => .again (unreachable request) policy.delay
  | .dropped => .failed (.transport endpoint (.sending request.shownUrl))
  | .unsendable => .failed (.transport endpoint (.building request.shownUrl))
where
  unreachable (request : Http.Request) : Event :=
    .unreachable policy.delay (Http.TransportFault.sending request.shownUrl).message
      endpoint.label attempt policy.maxAttempts

/-- Up to `left` more attempts after those made. -/
def attemptsFrom (policy : RetryPolicy) (endpoint : Endpoint) (request : Http.Request) :
    Nat → Nat → Session (Except Fault Delivery)
  | 0, made => pure (.error (.unavailable endpoint made))
  | left + 1, made => do
    let outcome ← Session.attempt request
    match classify policy endpoint request (made + 1) outcome with
    | .delivered response => pure (.ok ⟨response, made + 1⟩)
    | .failed fault => pure (.error fault)
    | .again event delay => do
      Session.log event
      if left ≠ 0 then Session.wait delay
      attemptsFrom policy endpoint request left (made + 1)

def sendRetrying (policy : RetryPolicy) (endpoint : Endpoint) (request : Http.Request) :
    Session (Except Fault Delivery) :=
  attemptsFrom policy endpoint request policy.maxAttempts 0

/-! ## The client -/

structure Client where
  base : Url
  policy : RetryPolicy
  deriving DecidableEq, Repr

namespace Client

def send (client : Client) (call : Call) : Session (Except Fault Delivery) :=
  match call.request? client.base with
  | none => pure (.error (.invalidUrl call.endpoint client.base.text))
  | some request => sendRetrying client.policy call.endpoint request

/-- The pair of ids in the text of a body. -/
def spanOfText (endpoint : Endpoint) (body : String) : Except Fault TraceSpan :=
  match TraceSpan.ofBody? body with
  | some span => .ok span
  | none => .error (.invalidResponse endpoint body)

/-- The pair of ids in a delivered response. -/
def spanOf (endpoint : Endpoint) (delivery : Delivery) : Except Fault TraceSpan :=
  match delivery.response.body.text with
  | .error fault => .error (.transport endpoint fault)
  | .ok body => spanOfText endpoint body

/-- A call that is answered by a pair of ids. -/
def sendForSpan (client : Client) (call : Call) : Session (Except Fault TraceSpan) := do
  let sent ← client.send call
  return sent.bind (spanOf call.endpoint)

/-- A call whose answer is of no interest beyond its success. -/
def sendForNothing (client : Client) (call : Call) : Session (Except Fault Unit) := do
  let sent ← client.send call
  return sent.map fun _ => ()

/-- Opens the trace of an upload and answers its root span. -/
def createTrace (client : Client) (uploadId useCase category : String) :
    Session (Except Fault TraceSpan) :=
  client.sendForSpan (.createTrace uploadId useCase category)

/-- Starts the span of a stage below another span. -/
def startSpan (client : Client) (traceId parentSpanId stage : String) :
    Session (Except Fault TraceSpan) :=
  client.sendForSpan (.startSpan traceId parentSpanId stage)

def stopSpan (client : Client) (traceId spanId : String) : Session (Except Fault Unit) :=
  client.sendForNothing (.stopSpan traceId spanId)

def findTrace (client : Client) (uploadId : String) : Session (Except Fault TraceSpan) :=
  client.sendForSpan (.findTrace uploadId)

def findSpan (client : Client) (uploadId stage : String) : Session (Except Fault TraceSpan) :=
  client.sendForSpan (.findSpan uploadId stage)

def createReport (client : Client) (uploadId useCase category stage report : String) :
    Session (Except Fault Unit) :=
  client.sendForNothing (.createReport uploadId useCase category stage report)

end Client

end Status

end UploadHooks
