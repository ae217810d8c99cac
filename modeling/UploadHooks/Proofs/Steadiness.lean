import UploadHooks.Lifecycle
import UploadHooks.Proofs.Status.Disturbance
import UploadHooks.Verification.Reporting

/-!
# The flows are steady

Each flow that talks to the status service is a chain of calls, where the
ids that one call brings go into the next. Calls are steady and so is
their chain, whatever the flow does with a result in between; a proof of
it goes along the flow, with a case for each result that it looks at.

`transient_faults_invisible` puts the flows together. It covers any number
of calls that are all disturbed up to the limit, since `Disturbed` bounds
the faults in front of each outcome and not their sum.
-/

namespace UploadHooks

open Session (Steady)

/-! ## Before and after an upload -/

namespace Lifecycle

variable (client : Status.Client)

theorem steady_postCreate (uploadId : String) (m : Metadata) :
    Steady client.policy.maxAttempts (postCreate client uploadId m) := by
  rw [postCreate]
  cases resolve m with
  | error fault => exact .pure _
  | ok upload =>
      refine .bind (client.steady_sendForSpan _) fun opened => ?_
      cases opened with
      | error fault => exact .pure _
      | ok root =>
          refine .bind (client.steady_sendForSpan _) fun started => ?_
          cases started with
          | error fault => exact .pure _
          | ok span => exact .pure _

theorem steady_lookUpTrace (uploadId : String) :
    Steady client.policy.maxAttempts (lookUpTrace client uploadId) := by
  refine .bind (client.steady_sendForSpan _) fun found => ?_
  cases found with
  | error fault => exact .log _
  | ok trace => exact .pure _

theorem steady_postFinish (uploadId : String) :
    Steady client.policy.maxAttempts (postFinish client uploadId) := by
  refine .bind (steady_lookUpTrace client uploadId) fun _ => ?_
  refine .bind (client.steady_sendForSpan _) fun found => ?_
  cases found with
  | error fault => exact .pure _
  | ok span =>
      refine .bind (client.steady_sendForNothing _) fun stopped => ?_
      cases stopped with
      | error fault => exact .pure _
      | ok done => exact .pure _

end Lifecycle

/-! ## The report of a rejection -/

namespace Verification

variable (client : Status.Client)

/-- The span is stopped after either result of the report, so its outcome
does not decide what is sent. -/
theorem steady_submit (uploadId useCase category report : String) :
    Steady client.policy.maxAttempts (submit client uploadId useCase category report) := by
  refine .bind (client.steady_sendForSpan _) fun opened => ?_
  cases opened with
  | error fault => exact .pure _
  | ok root =>
      refine .bind (client.steady_sendForSpan _) fun started => ?_
      cases started with
      | error fault => exact .pure _
      | ok span =>
          refine .bind (client.steady_sendForNothing _) fun reported => ?_
          refine .bind (client.steady_sendForNothing _) fun stopped => ?_
          exact .pure _

theorem steady_check (limit : Nat) (store : Schema.Store) (m : Metadata) :
    Steady limit (check store m) := by
  rw [check]
  cases resolve m with
  | error fault => exact .pure _
  | ok upload => exact .bind (.fetch _ _) fun _ => .pure _

theorem steady_verify (store : Schema.Store) (uploadId : String) (m : Metadata) :
    Steady client.policy.maxAttempts (verify store (some client) uploadId m) := by
  refine .bind (steady_check _ store m) fun verdict => ?_
  cases verdict with
  | ok accepted => exact .pure _
  | error rejection =>
      refine .bind (.bind (steady_submit client _ _ _ _) fun submitted => ?_) fun _ => .pure _
      cases submitted with
      | ok done => exact .pure _
      | error fault => exact .log _

end Verification

/-! ## All flows -/

/-- What the two runs of a flow have in common when all that happened to
the second is that calls had to be repeated. -/
structure Invisible {α : Type} (limit : Nat) (calm disturbed : Run α) : Prop where
  value : disturbed.value = calm.value
  requests : disturbed.logicalRequests = calm.logicalRequests
  attempts : Repeated limit calm.attempts disturbed.attempts

theorem Session.Steady.invisible {α : Type} {limit : Nat} {session : Session α}
    (hsteady : Steady limit session) {script disturbed : Http.Script}
    (h : Disturbed limit script disturbed) :
    Invisible limit (session.run script) (session.run disturbed) := by
  obtain ⟨hvalue, hattempts, -⟩ := hsteady script disturbed h
  exact ⟨hvalue, hattempts.logicalRequests_eq, hattempts⟩

/-- Fewer faults in front of each outcome than a call has attempts change
no result, and of the requests only how often they are repeated. -/
theorem transient_faults_invisible (client : Status.Client) {script disturbed : Http.Script}
    (h : Disturbed client.policy.maxAttempts script disturbed) :
    let limit := client.policy.maxAttempts
    (∀ uploadId m, Invisible limit ((Lifecycle.postCreate client uploadId m).run script)
      ((Lifecycle.postCreate client uploadId m).run disturbed)) ∧
    (∀ uploadId, Invisible limit ((Lifecycle.postFinish client uploadId).run script)
      ((Lifecycle.postFinish client uploadId).run disturbed)) ∧
    (∀ uploadId useCase category report,
      Invisible limit ((Verification.submit client uploadId useCase category report).run script)
        ((Verification.submit client uploadId useCase category report).run disturbed)) ∧
    (∀ store uploadId m,
      Invisible limit ((Verification.verify store (some client) uploadId m).run script)
        ((Verification.verify store (some client) uploadId m).run disturbed)) :=
  ⟨fun uploadId m => (Lifecycle.steady_postCreate client uploadId m).invisible h,
    fun uploadId => (Lifecycle.steady_postFinish client uploadId).invisible h,
    fun uploadId _ _ _ => (Verification.steady_submit client uploadId _ _ _).invisible h,
    fun store uploadId m => (Verification.steady_verify client store uploadId m).invisible h⟩

/-- Three calls with three attempts each, and two faults in front of every
outcome: the span is stopped on the ninth attempt. -/
theorem postFinish_under_six_faults :
    let client : Status.Client := ⟨⟨"http", .authority ⟨"", "", "status", none⟩, .segments [],
      none, none⟩, ⟨3, .ofSecs 1⟩⟩
    let answer : Http.Outcome := .responded ⟨200, [],
      .complete "\x7b\"trace_id\":\"t\",\"span_id\":\"s\"\x7d".toUTF8.toList⟩
    let throttled : Http.Outcome := .responded ⟨429, [], .complete []⟩
    let script := [.dropped, answer, answer]
    let disturbed := [.timedOut, .unreachable, .dropped, throttled, .timedOut, answer,
      throttled, throttled, answer]
    let run := (Lifecycle.postFinish client "upload").run disturbed
    Disturbed client.policy.maxAttempts script disturbed ∧
      Invisible 3 ((Lifecycle.postFinish client "upload").run script) run ∧
      run.value = .ok ⟨"t", "s"⟩ ∧ run.attempts.length = 9 := by
  intro client answer throttled script disturbed run
  have h : Disturbed 3 script disturbed :=
    @Disturbed.cons 3 .dropped [.timedOut, .unreachable] _ _ rfl (by decide) (by decide) <|
    @Disturbed.cons 3 answer [throttled, .timedOut] _ _ rfl (by decide) (by decide) <|
    @Disturbed.cons 3 answer [throttled, throttled] _ _ rfl (by decide) (by decide) .nil
  refine ⟨h, (transient_faults_invisible client h).2.1 "upload", ?_, ?_⟩
  · decide +kernel
  · decide +kernel

end UploadHooks
