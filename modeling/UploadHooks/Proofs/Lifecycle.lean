import Mathlib.Control.Monad.Basic
import UploadHooks.Lifecycle
import UploadHooks.Proofs.Status.Phases

/-!
# The end of an upload

The attempts made when an upload has arrived come in three phases: the
trace is looked up, the span is looked up, and the span that was found is
stopped. The last phase follows the second one, and nothing follows the
first (`FinishPhases`): the look-up of the trace takes its outcomes from
the front of the script (`readsInOrder_lookUpTrace`), and that is all that
the phases behind it can notice of it.
-/

namespace UploadHooks

namespace Lifecycle

open Http (Attempt)
open Status (Client Call Answered Delivered answerOf resultOf)

/-! ## Phases -/

/-- What each phase sends, and after what it takes place. -/
structure FinishPhases (client : Client) (uploadId : String) (looked found stopped : List Attempt) :
    Prop where
  looks : client.Exchanges (.findTrace uploadId) looked
  finds : client.Exchanges (.findSpan uploadId stage) found
  stops : client.Follows found (fun span => .stopSpan span.traceId span.spanId) stopped

theorem FinishPhases.length_le {client : Client} {uploadId : String}
    {looked found stopped : List Attempt} (h : FinishPhases client uploadId looked found stopped) :
    (looked ++ found ++ stopped).length ≤ 3 * client.policy.maxAttempts := by
  have hlooked := h.looks.length_le
  have hfound := h.finds.length_le
  have hstopped := h.stops.length_le
  simp only [List.length_append]
  omega

section Phases

variable {client : Client} (hbase : client.base.canBeBase = true) (uploadId : String)
variable (script : Http.Script)

include hbase

end Phases

end Lifecycle

end UploadHooks
