import UploadHooks.Status.Client
import UploadHooks.Verification.Report

/-!
# Verifying with a report

A rejection is reported as a trace of its own: a trace is opened, a span
is started below its root, the report is attached and the span is stopped.
The span is stopped even if the report could not be attached. Reporting is
best effort: what goes wrong with it is logged, and the verdict stays.

The trace needs the ids of the use case. Those that the metadata does not
give are replaced by `notProvided`.
-/

namespace UploadHooks

namespace Verification

/-- The stage that a rejection is reported under. -/
def stage : String := "metadata-verify"

def notProvided : String := "not provided"

/-- Use case and category for the trace of a report. -/
def reportIds (m : Metadata) : String × String :=
  match MetadataVersion.ofMetadata m with
  | .ok version =>
    ((m.get? version.idFields.1).getD notProvided, (m.get? version.idFields.2).getD notProvided)
  | .error _ => (notProvided, notProvided)

/-- Trace, span, report, end of span. A failed report takes precedence
over a failed end. -/
def submit (client : Status.Client) (uploadId useCase category report : String) :
    Session (Except Status.Fault Unit) := do
  match ← client.createTrace uploadId useCase category with
  | .error fault => return .error fault
  | .ok root =>
    match ← client.startSpan root.traceId root.spanId stage with
    | .error fault => return .error fault
    | .ok span => do
      let reported ← client.createReport uploadId useCase category stage report
      let stopped ← client.stopSpan span.traceId span.spanId
      return reported.bind fun _ => stopped

def reportRejection (reporter : Option Status.Client) (uploadId : String) (m : Metadata)
    (rejection : Rejection) : Session Unit :=
  match reporter with
  | none => Session.log (.reportingDisabled uploadId)
  | some client => do
    let (useCase, category) := reportIds m
    let report := (Report.ofRejection m rejection).text
    match ← submit client uploadId useCase category report with
    | .ok () => return ()
    | .error fault => Session.log (.reportingFailed uploadId fault.message)

/-- The verdict on the metadata of an upload; a rejection is reported. -/
def verify (store : Schema.Store) (reporter : Option Status.Client) (uploadId : String)
    (m : Metadata) : Session (Except Rejection Unit) := do
  match ← check store m with
  | .ok () => return .ok ()
  | .error rejection => do
    reportRejection reporter uploadId m rejection
    return .error rejection

end Verification

end UploadHooks
