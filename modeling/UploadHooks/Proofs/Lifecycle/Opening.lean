import UploadHooks.Lifecycle
import UploadHooks.Proofs.Status.Call
import UploadHooks.Proofs.Status.Phases

/-!
# The beginning of an upload

The attempts made when an upload has been created come in two phases: its
trace is opened, and the span of the transfer is started below the root of
that trace (`OpeningPhases`). Metadata that does not resolve has neither.

Both phases bring a pair of ids. Those of the first are what the second is
asked with and what the flow answers. Of the second pair only the presence
counts: the started span is found again when the upload is finished, and
`openingResult` has no place for its ids.
-/

namespace UploadHooks

namespace Lifecycle

open Http (Attempt)
open Status (Client Call Answered answerOf answerOf_eq_ok_iff)

/-! ## Phases -/

/-- What each phase sends, and after what it takes place. -/
structure OpeningPhases (client : Client) (uploadId useCase category : String)
    (opened started : List Attempt) : Prop where
  opens : client.Exchanges (.createTrace uploadId useCase category) opened
  starts : client.Follows opened (fun root => .startSpan root.traceId root.spanId stage) started

namespace OpeningPhases

variable {client : Client} {uploadId useCase category : String} {opened started : List Attempt}

theorem length_le (h : OpeningPhases client uploadId useCase category opened started) :
    (opened ++ started).length ≤ 2 * client.policy.maxAttempts := by
  have hopened := h.opens.length_le
  have hstarted := h.starts.length_le
  simp only [List.length_append]
  omega

/-- The trace is opened for the given ids, whatever they are. -/
theorem parameters_opened (hbase : client.base.canBeBase = true)
    (h : OpeningPhases client uploadId useCase category opened started) :
    ∀ a ∈ opened, a.request.url.parameters = client.base.parameters ++
      [("uploadId", uploadId), ("destinationId", useCase), ("eventType", category)] :=
  fun a ha => (Call.shownBy_request hbase (h.opens.request_eq a ha)).parameters_eq

end OpeningPhases

/-! ## Results -/

/-- The result, as far as calls of so many attempts at most decide it. -/
def openingResult (uploadId : String) (limit : Nat) (opened started : List Attempt) :
    Except Fault UploadTrace :=
  match answerOf .createTrace limit opened with
  | .error fault => .error (.status fault)
  | .ok root =>
    match answerOf .startSpan limit started with
    | .error fault => .error (.status fault)
    | .ok _ => .ok (.ofRoot uploadId root)

section Result

variable {uploadId : String} {limit : Nat} {opened started : List Attempt}

/-- Any other ending is the fault of the call that failed. -/
theorem openingResult_eq_error_iff {fault : Fault} :
    openingResult uploadId limit opened started = .error fault ↔
      ∃ cause, fault = .status cause ∧ (answerOf .createTrace limit opened = .error cause ∨
        (∃ root, Answered opened root) ∧ answerOf .startSpan limit started = .error cause) := by
  have hroot := @answerOf_eq_ok_iff .createTrace limit opened
  rw [openingResult]
  simp only [← hroot]
  cases answerOf .createTrace limit opened with
  | error cause => simp [eq_comm]
  | ok root =>
      cases answerOf .startSpan limit started with
      | error cause => simp [eq_comm]
      | ok span => simp

theorem openingResult_ne_resolve (cause : ResolveFault) :
    openingResult uploadId limit opened started ≠ .error (.resolve cause) := by
  intro h
  obtain ⟨_, hfault, -⟩ := openingResult_eq_error_iff.mp h
  cases hfault

end Result

/-! ## The flow -/

section Flow

variable {client : Client} {m : Metadata} (uploadId : String) (script : Http.Script)

theorem postCreate_of_resolve_error {fault : ResolveFault} (h : resolve m = .error fault) :
    postCreate client uploadId m = pure (.error (.resolve fault)) := by
  rw [postCreate, h]

theorem postCreate_of_not_canBeBase (hbase : client.base.canBeBase = false)
    {upload : ResolvedUpload} (h : resolve m = .ok upload) :
    postCreate client uploadId m =
      pure (.error (.status (.invalidUrl .createTrace client.base.text))) := by
  simp only [postCreate, h, Client.createTrace, Client.sendForSpan,
    Client.send_of_not_canBeBase hbase]
  rfl

theorem postCreate_phases (hbase : client.base.canBeBase = true) {upload : ResolvedUpload}
    (h : resolve m = .ok upload) :
    let run := (postCreate client uploadId m).run script
    ∃ opened started, run.attempts = opened ++ started ∧
      OpeningPhases client uploadId upload.useCase upload.useCaseCategory opened started ∧
      run.value = openingResult uploadId client.policy.maxAttempts opened started := by
  have hopen := Client.sendForSpan_asks hbase
    (.createTrace uploadId upload.useCase upload.useCaseCategory) script
  have hroot : _ = answerOf .createTrace client.policy.maxAttempts _ := Client.sendForSpan_value
    hbase (.createTrace uploadId upload.useCase upload.useCaseCategory) script
  simp only [postCreate, h, Session.attempts_bind, Session.value_bind, Client.createTrace]
  generalize (client.sendForSpan
    (.createTrace uploadId upload.useCase upload.useCaseCategory)).run script = first
    at hopen hroot ⊢
  cases hfirst : first.value with
  | error fault =>
      refine ⟨first.attempts, [], by simp, ⟨hopen.exchanges, .of_error hopen hfirst⟩, ?_⟩
      rw [openingResult, ← hroot, hfirst]
      rfl
  | ok root =>
      have hstart := Client.sendForSpan_asks hbase
        (.startSpan root.traceId root.spanId stage) first.rest
      have hspan : _ = answerOf .startSpan client.policy.maxAttempts _ := Client.sendForSpan_value
        hbase (.startSpan root.traceId root.spanId stage) first.rest
      simp only [Client.startSpan, UploadTrace.ofRoot, Session.attempts_bind, Session.value_bind]
      generalize (client.sendForSpan (.startSpan root.traceId root.spanId stage)).run first.rest =
        second at hstart hspan ⊢
      refine ⟨first.attempts, second.attempts, ?_,
        ⟨hopen.exchanges, .of_ok hopen hfirst hstart.exchanges⟩, ?_⟩
      · cases second.value <;> simp
      · rw [openingResult, ← hroot, hfirst, ← hspan]
        cases second.value <;> rfl

end Flow

end Lifecycle

end UploadHooks
