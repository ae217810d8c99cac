import Mathlib.Data.List.Destutter
import UploadHooks.Proofs.Status.Exchange

/-!
# Transient faults

A script can be disturbed by transient faults in front of its outcomes,
fewer of them in front of each than a call has attempts. A session is
steady if it does not show: it has the same result, and its attempts are
those of the undisturbed run, some of them repeated.

Every call is steady (`steady_sendForSpan`, `steady_sendForNothing`). The
reason is in `attemptsFrom_disturbed`: the call takes exactly the faults
and the outcome behind them from the script, so that the next call starts
where it would have, with all of its attempts. Steadiness is kept by `>>=`
for the same reason, and so the flows that are made of calls are steady by
the way they are written.
-/

namespace UploadHooks

open Http (Outcome Request Attempt)

/-! ## Disturbed scripts, repeated attempts -/

/-- The second script is the first with fewer than `limit` transient faults
in front of each outcome. No outcome of the first is transient itself. -/
inductive Disturbed (limit : Nat) : Http.Script → Http.Script → Prop
  | nil : Disturbed limit [] []
  | cons {outcome : Outcome} {faults script disturbed : Http.Script} :
      outcome.isTransient = false → (∀ fault ∈ faults, fault.isTransient = true) →
      faults.length < limit → Disturbed limit script disturbed →
      Disturbed limit (outcome :: script) (faults ++ outcome :: disturbed)

/-- The attempts at a request that end in the given faults. -/
def failedAttempts (request : Request) (faults : List Outcome) : List Attempt :=
  faults.map (⟨request, ·⟩)

/-- The second list is the first with fewer than `limit` failed attempts at
the same request in front of each attempt. -/
inductive Repeated (limit : Nat) : List Attempt → List Attempt → Prop
  | nil : Repeated limit [] []
  | cons {a : Attempt} {faults : List Outcome} {attempts repeated : List Attempt} :
      (∀ fault ∈ faults, fault.isTransient = true) → faults.length < limit →
      Repeated limit attempts repeated →
      Repeated limit (a :: attempts) (failedAttempts a.request faults ++ a :: repeated)

namespace Repeated

variable {limit : Nat}

theorem refl (h : 0 < limit) : ∀ attempts : List Attempt, Repeated limit attempts attempts
  | [] => .nil
  | a :: attempts => by
      show Repeated limit (a :: attempts) (failedAttempts a.request [] ++ a :: attempts)
      exact .cons (by simp) h (refl h attempts)

theorem append {first second repeated repeated' : List Attempt}
    (h : Repeated limit first repeated) (h' : Repeated limit second repeated') :
    Repeated limit (first ++ second) (repeated ++ repeated') := by
  induction h with
  | nil => exact h'
  | cons hfaults hlt _ ih =>
      rw [List.append_assoc]
      exact .cons hfaults hlt ih

/-- Repeats come in front, so the last attempt stays. -/
theorem getLast?_eq {attempts repeated : List Attempt} (h : Repeated limit attempts repeated) :
    repeated.getLast? = attempts.getLast? := by
  induction h with
  | nil => rfl
  | cons _ _ _ ih =>
      rw [List.getLast?_append, List.getLast?_cons, List.getLast?_cons, ih]
      rfl

end Repeated

/-! ## Logical requests -/

/-- The requests of a run, repeats in a row taken as one. -/
def Run.logicalRequests {α : Type} (r : Run α) : List Request :=
  (r.attempts.map (·.request)).destutter (· ≠ ·)

theorem destutter'_self (request : Request) (rest : List Request) :
    List.destutter' (· ≠ ·) request (request :: rest) = List.destutter' (· ≠ ·) request rest :=
  List.destutter'_cons_neg _ (not_not.mpr rfl)

theorem destutter'_failedAttempts (request first : Request) (faults : List Outcome)
    (rest : List Request) :
    List.destutter' (· ≠ ·) first
        ((failedAttempts request faults).map (·.request) ++ request :: rest) =
      List.destutter' (· ≠ ·) first (request :: rest) := by
  induction faults generalizing first with
  | nil => rfl
  | cons fault faults ih =>
      rw [failedAttempts, List.map_cons, List.map_cons, List.cons_append]
      by_cases h : first = request
      · subst h
        rw [destutter'_self]
        exact ih first
      · rw [List.destutter'_cons_pos _ h, List.destutter'_cons_pos _ h]
        refine congrArg (first :: ·) ?_
        rw [← destutter'_self request rest]
        exact ih request

theorem Repeated.destutter'_eq {limit : Nat} {attempts repeated : List Attempt}
    (h : Repeated limit attempts repeated) (first : Request) :
    List.destutter' (· ≠ ·) first (repeated.map (·.request)) =
      List.destutter' (· ≠ ·) first (attempts.map (·.request)) := by
  induction h generalizing first with
  | nil => rfl
  | @cons a faults attempts repeated _ _ _ ih =>
      rw [List.map_append, List.map_cons, List.map_cons, destutter'_failedAttempts]
      by_cases heq : first = a.request
      · subst heq
        rw [destutter'_self, destutter'_self, ih]
      · rw [List.destutter'_cons_pos _ heq, List.destutter'_cons_pos _ heq, ih]

theorem Repeated.destutter_eq {limit : Nat} {attempts repeated : List Attempt}
    (h : Repeated limit attempts repeated) :
    (repeated.map (·.request)).destutter (· ≠ ·) =
      (attempts.map (·.request)).destutter (· ≠ ·) := by
  cases h with
  | nil => rfl
  | @cons a faults attempts repeated _ _ h =>
      cases faults with
      | nil => exact h.destutter'_eq a.request
      | cons fault faults =>
          rw [List.map_append, List.map_cons, failedAttempts, List.map_cons, List.map_cons,
            List.cons_append, List.destutter_cons']
          exact (destutter'_failedAttempts ..).trans
            ((destutter'_self ..).trans (h.destutter'_eq a.request))

theorem Repeated.logicalRequests_eq {α : Type} {limit : Nat} {calm disturbed : Run α}
    (h : Repeated limit calm.attempts disturbed.attempts) :
    disturbed.logicalRequests = calm.logicalRequests :=
  h.destutter_eq

/-! ## Steady sessions -/

/-- What a disturbance leaves as it is: the result, and the attempts except
for repeats. What is left of the script is as disturbed as before. -/
structure Unmoved {α : Type} (limit : Nat) (calm disturbed : Run α) : Prop where
  value : disturbed.value = calm.value
  attempts : Repeated limit calm.attempts disturbed.attempts
  rest : Disturbed limit calm.rest disturbed.rest

namespace Session

variable {α β : Type} {limit : Nat}

def Steady (limit : Nat) (session : Session α) : Prop :=
  ∀ script disturbed, Disturbed limit script disturbed →
    Unmoved limit (session.run script) (session.run disturbed)

theorem Steady.pure (a : α) : Steady limit (Pure.pure a : Session α) :=
  fun _ _ h => ⟨rfl, .nil, h⟩

theorem Steady.log (event : Event) : Steady limit (log event) :=
  fun _ _ h => ⟨rfl, .nil, h⟩

theorem Steady.fetch (store : Schema.Store) (key : Schema.Key) :
    Steady limit (fetch store key) :=
  fun _ _ h => ⟨rfl, .nil, h⟩

theorem Steady.bind {session : Session α} {next : α → Session β} (h : Steady limit session)
    (hnext : ∀ a, Steady limit (next a)) : Steady limit (session >>= next) := by
  intro script disturbed hscript
  obtain ⟨hvalue, hattempts, hrest⟩ := h script disturbed hscript
  obtain ⟨hvalue', hattempts', hrest'⟩ := hnext (session.run script).value _ _ hrest
  refine ⟨?_, ?_, ?_⟩
  · rw [value_bind, value_bind, hvalue]
    exact hvalue'
  · rw [attempts_bind, attempts_bind, hvalue]
    exact hattempts.append hattempts'
  · rw [rest_bind, rest_bind, hvalue]
    exact hrest'

end Session

/-! ## Calls are steady -/

namespace Status

section Attempts

variable (policy : RetryPolicy) (endpoint : Endpoint) {request : Request}

/-- A call with attempts enough takes the faults, and the outcome behind
them. -/
theorem attemptsFrom_disturbed (hsend : request.isSendable = true) {outcome : Outcome}
    (hdecisive : outcome.isTransient = false) (script : Http.Script) (faults : List Outcome)
    (hfaults : ∀ fault ∈ faults, fault.isTransient = true) (left made : Nat)
    (hlt : faults.length < left) :
    let run := (attemptsFrom policy endpoint request left made).run (faults ++ outcome :: script)
    run.attempts = failedAttempts request faults ++ [⟨request, outcome⟩] ∧ run.rest = script := by
  induction faults generalizing left made with
  | nil =>
      obtain ⟨left, rfl⟩ := Nat.exists_eq_succ_of_ne_zero (Nat.ne_of_gt hlt)
      have hanswer := Http.Script.answer_sendable hsend outcome script
      obtain ⟨result, hs⟩ := settle_of_not_transient endpoint request hdecisive
      intro run
      have hrun : run = _ := attemptsFrom_settled policy left made (outcome :: script)
        (by rw [hanswer]; exact hs)
      rw [hrun, hanswer]
      exact ⟨rfl, rfl⟩
  | cons fault faults ih =>
      obtain ⟨left, rfl⟩ := Nat.exists_eq_succ_of_ne_zero (Nat.ne_of_gt (Nat.zero_lt_of_lt hlt))
      have hanswer := Http.Script.answer_sendable hsend fault (faults ++ outcome :: script)
      obtain ⟨hfault, hfaults⟩ := List.forall_mem_cons.mp hfaults
      obtain ⟨-, hattempts, -, hrest⟩ := attemptsFrom_transient policy left made
        (fault :: (faults ++ outcome :: script)) endpoint (by rw [hanswer]; exact hfault)
      rw [hanswer] at hattempts hrest
      obtain ⟨ihattempts, ihrest⟩ := ih hfaults left (made + 1) (by simpa using hlt)
      intro run
      exact ⟨hattempts.trans (by rw [ihattempts]; rfl), hrest.trans ihrest⟩

theorem attemptsFrom_unsendable (hsend : request.isSendable = false) (script : Http.Script)
    (left made : Nat) :
    let run := (attemptsFrom policy endpoint request (left + 1) made).run script
    run.attempts = [⟨request, .unsendable⟩] ∧ run.rest = script := by
  have hanswer := Http.Script.answer_unsendable hsend script
  intro run
  have hrun : run = _ := attemptsFrom_settled policy left made script (by rw [hanswer]; exact rfl)
  rw [hrun, hanswer]
  exact ⟨rfl, rfl⟩

theorem attemptsFrom_rest_nil (hsend : request.isSendable = true) (left made : Nat) :
    ((attemptsFrom policy endpoint request left made).run []).rest = [] := by
  induction left generalizing made with
  | zero => rfl
  | succ left ih =>
      have hanswer := Http.Script.answer_nil hsend
      obtain ⟨-, -, -, hrest⟩ := attemptsFrom_transient policy left made [] endpoint
        (by rw [hanswer]; rfl)
      rw [hrest, hanswer]
      exact ih (made + 1)

/-- The calm and the disturbed run of a call go on at the same outcome,
and all that the second does besides is to try again. Where no attempt is
allowed nothing is sent, and nothing taken from either script. -/
theorem sendRetrying_repeated (request : Request) {script disturbed : Http.Script}
    (h : Disturbed policy.maxAttempts script disturbed) :
    let calm := (sendRetrying policy endpoint request).run script
    let run := (sendRetrying policy endpoint request).run disturbed
    Repeated policy.maxAttempts calm.attempts run.attempts ∧
      Disturbed policy.maxAttempts calm.rest run.rest := by
  intro calm run
  rcases Nat.eq_zero_or_pos policy.maxAttempts with hlimit | hlimit
  · have hnone : ∀ script, (sendRetrying policy endpoint request).run script =
        ⟨.error (.unavailable endpoint 0), [], script⟩ := fun script => by
      rw [sendRetrying, hlimit]
      rfl
    rw [show calm = _ from hnone script, show run = _ from hnone disturbed]
    exact ⟨.nil, h⟩
  cases hsend : request.isSendable with
  | false =>
      obtain ⟨left, hleft⟩ := Nat.exists_eq_succ_of_ne_zero (Nat.ne_of_gt hlimit)
      have hrun : ∀ script, ((sendRetrying policy endpoint request).run script).attempts =
          [⟨request, .unsendable⟩] ∧
          ((sendRetrying policy endpoint request).run script).rest = script := fun script => by
        rw [sendRetrying, hleft]
        exact attemptsFrom_unsendable policy endpoint hsend script left 0
      rw [(hrun script).1, (hrun disturbed).1, (hrun script).2, (hrun disturbed).2]
      exact ⟨.refl hlimit _, h⟩
  | true =>
      cases h with
      | nil =>
          have hrest : calm.rest = [] := attemptsFrom_rest_nil policy endpoint hsend _ 0
          refine ⟨.refl hlimit _, ?_⟩
          show Disturbed policy.maxAttempts calm.rest calm.rest
          rw [hrest]
          exact .nil
      | @cons outcome faults script disturbed hdecisive hfaults hlt h =>
          obtain ⟨hcalm, hcalmrest⟩ := attemptsFrom_disturbed policy endpoint hsend hdecisive
            script [] (by simp) policy.maxAttempts 0 hlimit
          obtain ⟨hrun, hrunrest⟩ := attemptsFrom_disturbed policy endpoint hsend hdecisive
            disturbed faults hfaults policy.maxAttempts 0 hlt
          refine ⟨?_, ?_⟩
          · rw [show calm.attempts = _ from hcalm, show run.attempts = _ from hrun]
            exact .cons hfaults hlt .nil
          · rw [show calm.rest = _ from hcalmrest, show run.rest = _ from hrunrest]
            exact h

/-- The last attempt holds the result, so the two runs have the same
response. Only the number of the attempt that it came on can differ. -/
theorem sendRetrying_response (request : Request) {script disturbed : Http.Script}
    (h : Disturbed policy.maxAttempts script disturbed) :
    ((sendRetrying policy endpoint request).run disturbed).value.map (·.response) =
      ((sendRetrying policy endpoint request).run script).value.map (·.response) := by
  obtain ⟨hrepeated, -⟩ := sendRetrying_repeated policy endpoint request h
  have hvalue : ∀ script, ((sendRetrying policy endpoint request).run script).value.map
      (·.response) = _ := attemptsFrom_value policy endpoint request policy.maxAttempts 0
  rw [hvalue, hvalue, resultOf, resultOf]
  exact congrArg (fun last => (Option.bind last _).getD _) hrepeated.getLast?_eq

end Attempts

namespace Client

open Session (Steady)

variable (client : Client) (call : Call)

theorem send_disturbed {script disturbed : Http.Script}
    (h : Disturbed client.policy.maxAttempts script disturbed) :
    let calm := (client.send call).run script
    let run := (client.send call).run disturbed
    run.value.map (·.response) = calm.value.map (·.response) ∧
      Repeated client.policy.maxAttempts calm.attempts run.attempts ∧
      Disturbed client.policy.maxAttempts calm.rest run.rest := by
  cases hr : call.request? client.base with
  | none =>
      simp only [send, hr]
      exact ⟨rfl, .nil, h⟩
  | some request =>
      simp only [send, hr]
      exact ⟨sendRetrying_response client.policy call.endpoint request h,
        sendRetrying_repeated client.policy call.endpoint request h⟩

/-- What follows a call and looks at the response only is not moved. -/
theorem steady_send {α : Type} {read : Except Fault Delivery → α}
    (hread : ∀ sent sent', sent.map (·.response) = sent'.map (·.response) →
      read sent = read sent') :
    Steady client.policy.maxAttempts (do
      let sent ← client.send call
      return read sent) := by
  intro script disturbed h
  obtain ⟨hvalue, hattempts, hrest⟩ := client.send_disturbed call h
  refine ⟨hread _ _ hvalue, ?_, hrest⟩
  simpa only [Session.attempts_bind, Session.attempts_pure, List.append_nil] using hattempts

theorem steady_sendForSpan : Steady client.policy.maxAttempts (client.sendForSpan call) := by
  refine client.steady_send call fun sent sent' h => ?_
  cases sent <;> cases sent' <;> simp_all [Except.map, Except.bind, spanOf]

theorem steady_sendForNothing : Steady client.policy.maxAttempts (client.sendForNothing call) := by
  refine client.steady_send call fun sent sent' h => ?_
  cases sent <;> cases sent' <;> simp_all [Except.map]

end Client

end Status

end UploadHooks
