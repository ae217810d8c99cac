import UploadHooks.Status.Client
import UploadHooks.Upload

/-!
# The life of an upload

Once an upload has been created its trace is opened and a span started in
it, which is stopped when all bytes have arrived. The two ends are run
apart from each other, so the second one asks the service for the span.
-/

namespace UploadHooks

namespace Lifecycle

/-- The stage of the upload itself. -/
def stage : String := "dex-upload"

inductive Fault where
  | resolve (fault : ResolveFault)
  | status (fault : Status.Fault)
  deriving DecidableEq, Repr

def Fault.message : Fault → String
  | .resolve fault => fault.message
  | .status fault => fault.message

/-- Opens the trace of an upload and starts its span. -/
def postCreate (client : Status.Client) (uploadId : String) (m : Metadata) :
    Session (Except Fault UploadTrace) :=
  match resolve m with
  | .error fault => pure (.error (.resolve fault))
  | .ok upload => do
    match ← client.createTrace uploadId upload.useCase upload.useCaseCategory with
    | .error fault => return .error (.status fault)
    | .ok root => do
      let trace := UploadTrace.ofRoot uploadId root
      match ← client.startSpan trace.traceId trace.parentSpanId stage with
      | .error fault => return .error (.status fault)
      | .ok _ => return .ok trace

/-- The trace is looked up first, but only its absence is noted. -/
def lookUpTrace (client : Status.Client) (uploadId : String) : Session Unit := do
  match ← client.findTrace uploadId with
  | .ok _ => return ()
  | .error fault => Session.log (.traceLookupFailed uploadId fault.message)

/-- Stops the span of an upload and answers it. -/
def postFinish (client : Status.Client) (uploadId : String) : Session (Except Fault TraceSpan) := do
  lookUpTrace client uploadId
  match ← client.findSpan uploadId stage with
  | .error fault => return .error (.status fault)
  | .ok span =>
    match ← client.stopSpan span.traceId span.spanId with
    | .error fault => return .error (.status fault)
    | .ok () => return .ok span

end Lifecycle

end UploadHooks
