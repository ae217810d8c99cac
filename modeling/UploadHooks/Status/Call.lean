import UploadHooks.Http
import UploadHooks.Url.Extend

/-!
# Calls to the status service

The service has six operations. A call is an operation with its
arguments, laid out as the path segments and query parameters that are
added to the base URL. Ids go into segments and parameters as they are;
writing them down safely is up to `Url.extend`.
-/

namespace UploadHooks

namespace Status

inductive Endpoint where
  | createTrace
  | startSpan
  | stopSpan
  | findTrace
  | findSpan
  | createReport
  deriving DecidableEq, Repr

namespace Endpoint

def method : Endpoint → Http.Method
  | .createTrace => .post
  | .startSpan => .put
  | .stopSpan => .put
  | .findTrace => .get
  | .findSpan => .get
  | .createReport => .post

/-- The segments that every call of the operation starts with. -/
def segments : Endpoint → List String
  | .createTrace => ["api", "trace"]
  | .startSpan => ["api", "trace", "startSpan"]
  | .stopSpan => ["api", "trace", "stopSpan"]
  | .findTrace => ["api", "trace", "uploadId"]
  | .findSpan => ["api", "trace", "span"]
  | .createReport => ["api", "report", "json", "uploadId"]

/-- The operation as messages name it. -/
def label (e : Endpoint) : String :=
  e.method.text ++ " " ++ String.join (e.segments.map ("/" ++ ·))

end Endpoint

structure Call where
  endpoint : Endpoint
  ids : List String
  parameters : List (String × String)
  body : Option String
  deriving DecidableEq, Repr

namespace Call

def createTrace (uploadId useCase category : String) : Call :=
  ⟨.createTrace, [],
    [("uploadId", uploadId), ("destinationId", useCase), ("eventType", category)], none⟩

def startSpan (traceId parentSpanId stage : String) : Call :=
  ⟨.startSpan, [traceId, parentSpanId], [("stageName", stage)], none⟩

def stopSpan (traceId spanId : String) : Call := ⟨.stopSpan, [traceId, spanId], [], none⟩

def findTrace (uploadId : String) : Call := ⟨.findTrace, [uploadId], [], none⟩

def findSpan (uploadId stage : String) : Call :=
  ⟨.findSpan, [], [("uploadId", uploadId), ("stageName", stage)], none⟩

/-- A report is attached to a stage of an upload; its text is JSON. -/
def createReport (uploadId useCase category stage report : String) : Call :=
  ⟨.createReport, [uploadId],
    [("destinationId", useCase), ("eventType", category), ("stageName", stage)], some report⟩

def url? (base : Url) (call : Call) : Option Url :=
  base.extend (call.endpoint.segments ++ call.ids) call.parameters

/-- The request below a base; nothing if the base has no path. -/
def request? (base : Url) (call : Call) : Option Http.Request :=
  (call.url? base).map fun url => ⟨call.endpoint.method, url, call.body⟩

end Call

end Status

end UploadHooks
