import UploadHooks.Proofs.Status.Exchange

/-!
# Where the attempts of a call end

The outcomes that the attempts at a request meet form a sequence, known
before the first attempt: what the script has next, one after the other,
or always the same if the request cannot be sent (`Script.outcomeAt`). A
call looks for the first of them that is not transient. If that comes
within the attempts of the policy, the call makes exactly the attempts up
to it and has the result that it dictates (`Dictates`); otherwise it makes
all of its attempts and finds the service unavailable.

`EndsAt` and `Exhausts` are these two ways to end, and `attemptsFrom_ends`
and `attemptsFrom_exhausts` follow them through the loop, by induction on
the attempts before the last one. A call leaves the rest of the script as
it is, so the next call meets the outcomes behind those (`InTurn`).
-/

namespace UploadHooks

namespace Http

/-- What an attempt at the request meets after that many others. -/
def Script.outcomeAt (script : Script) (request : Request) (before : Nat) : Outcome :=
  if request.isSendable then script[before]?.getD .unreachable else .unsendable

/-- What that many attempts at the request leave of the script. -/
def Script.after (script : Script) (request : Request) (attempts : Nat) : Script :=
  if request.isSendable then script.drop attempts else script

section Answers

variable (script : Script) (request : Request)

theorem Script.answer_fst : (script.answer request).1 = script.outcomeAt request 0 := by
  unfold answer outcomeAt
  cases request.isSendable with
  | false => rfl
  | true => cases script <;> rfl

theorem Script.answer_snd : (script.answer request).2 = script.after request 1 := by
  unfold answer after
  cases request.isSendable with
  | false => rfl
  | true => cases script <;> rfl

theorem Script.outcomeAt_after (attempts before : Nat) :
    (script.after request attempts).outcomeAt request before =
      script.outcomeAt request (attempts + before) := by
  rw [outcomeAt, outcomeAt, after]
  cases request.isSendable with
  | false => rfl
  | true => simp only [if_true, List.getElem?_drop]

theorem Script.after_zero : script.after request 0 = script := by
  rw [after, List.drop_zero, ite_self]

theorem Script.after_after (attempts more : Nat) :
    (script.after request attempts).after request more =
      script.after request (attempts + more) := by
  rw [after, after, after]
  cases request.isSendable with
  | false => rfl
  | true => simp only [if_true, List.drop_drop]

end Answers

end Http

/-- The number of the attempt that an event is about. -/
def Event.attempt? : Event → Option Nat
  | .throttled _ _ attempt _ _ => some attempt
  | .unreachable _ _ _ attempt _ => some attempt
  | _ => none

/-- The attempt counter as far as it shows in the log. -/
def Run.counted {α : Type} (r : Run α) : List Nat := r.events.filterMap Event.attempt?

namespace Status

open Http (Outcome Request Attempt)

/-! ## What an outcome dictates -/

/-- The result of a call whose attempt of that number meets an outcome that
is not transient. -/
inductive Dictates (endpoint : Endpoint) (request : Request) (attempt : Nat) :
    Outcome → Except Fault Delivery → Prop
  | success {r : Http.Response} : 200 ≤ r.status → r.status < 300 →
      Dictates endpoint request attempt (.responded r) (.ok ⟨r, attempt⟩)
  | refusal {r : Http.Response} {bytes : List UInt8} : r.status < 200 ∨ 300 ≤ r.status →
      r.status ≠ 429 → r.status ≠ 503 → r.body = .complete bytes →
      Dictates endpoint request attempt (.responded r)
        (.error (.refused endpoint r.status (Utf8.lossyText bytes)))
  | refusalUnread {r : Http.Response} : r.status < 200 ∨ 300 ≤ r.status →
      r.status ≠ 429 → r.status ≠ 503 → r.body = .brokenOff →
      Dictates endpoint request attempt (.responded r) (.error (.refused endpoint r.status ""))
  | dropped : Dictates endpoint request attempt .dropped
      (.error (.transport endpoint (.sending request.shownUrl)))
  | unsendable : Dictates endpoint request attempt .unsendable
      (.error (.transport endpoint (.building request.shownUrl)))

theorem isTransient_iff {outcome : Outcome} : outcome.isTransient = true ↔
    (∃ r, outcome = .responded r ∧ (r.status = 429 ∨ r.status = 503)) ∨
      outcome = .unreachable ∨ outcome = .timedOut := by
  cases outcome with
  | responded r => simp [Outcome.isTransient, Http.Response.isThrottled]
  | unreachable => simp [Outcome.isTransient]
  | timedOut => simp [Outcome.isTransient]
  | dropped => simp [Outcome.isTransient]
  | unsendable => simp [Outcome.isTransient]

theorem dictates_of_settle {endpoint : Endpoint} {request : Request} {outcome : Outcome}
    {result : Except Fault Http.Response} (h : settle endpoint request outcome = some result)
    (attempt : Nat) :
    Dictates endpoint request attempt outcome (result.map (⟨·, attempt⟩)) := by
  cases outcome with
  | responded r =>
      rw [settle] at h
      split at h
      · next hsuccess =>
        obtain rfl := Option.some.inj h
        simp only [Http.Response.isSuccess, Bool.and_eq_true, decide_eq_true_eq] at hsuccess
        exact .success hsuccess.1 hsuccess.2
      · next hsuccess =>
        split at h
        · cases h
        · next hthrottled =>
          obtain rfl := Option.some.inj h
          have hout : r.status < 200 ∨ 300 ≤ r.status := by
            simp only [Http.Response.isSuccess, Bool.and_eq_true, decide_eq_true_eq] at hsuccess
            omega
          simp only [Http.Response.isThrottled, Bool.or_eq_true, beq_iff_eq, not_or] at hthrottled
          cases hbody : r.body with
          | complete bytes => exact .refusal hout hthrottled.1 hthrottled.2 hbody
          | brokenOff => exact .refusalUnread hout hthrottled.1 hthrottled.2 hbody
  | unreachable => cases h
  | timedOut => cases h
  | dropped =>
      obtain rfl := Option.some.inj h
      exact .dropped
  | unsendable =>
      obtain rfl := Option.some.inj h
      exact .unsendable

/-! ## The two ways to end -/

/-- The first attempts at a request, with what they meet. -/
def firstAttempts (request : Request) (script : Http.Script) (count : Nat) : List Attempt :=
  (List.range count).map fun i => ⟨request, script.outcomeAt request i⟩

/-- The attempts before that one meet transient outcomes. -/
def TransientBefore (request : Request) (script : Http.Script) (attempts : Nat) : Prop :=
  ∀ i < attempts, (script.outcomeAt request i).isTransient = true

/-- The run makes one attempt after `before` transient ones, and that one
decides the call. Attempts are counted on from `made`. -/
structure EndsAt (endpoint : Endpoint) (request : Request) (script : Http.Script)
    (made before : Nat) (run : Run (Except Fault Delivery)) : Prop where
  value : Dictates endpoint request (made + before + 1) (script.outcomeAt request before) run.value
  attempts : run.attempts = firstAttempts request script (before + 1)
  counted : run.counted = (List.range before).map (made + · + 1)
  rest : run.rest = script.after request (before + 1)

/-- The run makes so many attempts, all with transient outcomes. -/
structure Exhausts (endpoint : Endpoint) (request : Request) (script : Http.Script)
    (made left : Nat) (run : Run (Except Fault Delivery)) : Prop where
  value : run.value = .error (.unavailable endpoint (made + left))
  attempts : run.attempts = firstAttempts request script left
  counted : run.counted = (List.range left).map (made + · + 1)
  rest : run.rest = script.after request left

section Loop

variable (policy : RetryPolicy) (endpoint : Endpoint) (request : Request)

theorem firstAttempts_succ (script : Http.Script) (count : Nat) :
    firstAttempts request script (count + 1) =
      ⟨request, script.outcomeAt request 0⟩ ::
        firstAttempts request (script.after request 1) count := by
  rw [firstAttempts, List.range_succ_eq_map, List.map_cons, List.map_map, firstAttempts]
  congr 1
  refine List.map_congr_left fun i _ => ?_
  rw [Http.Script.outcomeAt_after, Nat.add_comm 1 i]
  rfl

theorem counted_succ (made count : Nat) : (List.range (count + 1)).map (made + · + 1) =
    (made + 1) :: (List.range count).map (made + 1 + · + 1) := by
  rw [List.range_succ_eq_map, List.map_cons, List.map_map]
  congr 1
  refine List.map_congr_left fun i _ => ?_
  simp only [Function.comp_apply]
  omega

theorem transientBefore_succ {script : Http.Script} {attempts : Nat} :
    TransientBefore request script (attempts + 1) ↔
      (script.outcomeAt request 0).isTransient = true ∧
        TransientBefore request (script.after request 1) attempts := by
  constructor
  · intro h
    refine ⟨h 0 (Nat.succ_pos _), fun i hi => ?_⟩
    rw [Http.Script.outcomeAt_after, Nat.add_comm]
    exact h (i + 1) (Nat.succ_lt_succ hi)
  · rintro ⟨hzero, hrest⟩ i hi
    cases i with
    | zero => exact hzero
    | succ i =>
        have hi := hrest i (Nat.lt_of_succ_lt_succ hi)
        rwa [Http.Script.outcomeAt_after, Nat.add_comm] at hi

theorem attempt?_of_again {attempt : Nat} {outcome : Outcome} {event : Event} {delay : Duration}
    (h : classify policy endpoint request attempt outcome = .again event delay) :
    event.attempt? = some attempt := by
  obtain ⟨r, -, -, -, rfl⟩ | ⟨-, -, rfl⟩ := classify_again_cases h
  · rfl
  · rfl

/-- One turn of the loop on a transient outcome: it is logged under its
number, and the rest is a loop with one attempt less. -/
theorem attemptsFrom_step (left made : Nat) (script : Http.Script)
    (h : (script.outcomeAt request 0).isTransient = true) :
    let run := (attemptsFrom policy endpoint request (left + 1) made).run script
    let next := (attemptsFrom policy endpoint request left (made + 1)).run
      (script.after request 1)
    run.value = next.value ∧
      run.attempts = ⟨request, script.outcomeAt request 0⟩ :: next.attempts ∧
      run.counted = (made + 1) :: next.counted ∧ run.rest = next.rest := by
  rw [← Http.Script.answer_fst] at h
  obtain ⟨event, delay, hagain⟩ := classify_transient policy endpoint request (made + 1) h
  obtain ⟨hvalue, hattempts, -, hrest⟩ := attemptsFrom_transient policy left made script endpoint h
  rw [Http.Script.answer_fst, Http.Script.answer_snd] at hattempts
  rw [Http.Script.answer_snd] at hvalue hrest
  intro run next
  refine ⟨hvalue, hattempts, ?_, hrest⟩
  have hrun : run = _ := attemptsFrom_again policy left made script hagain
  have hattempt := attempt?_of_again policy endpoint request hagain
  rw [Http.Script.answer_snd] at hrun
  rw [hrun]
  by_cases hleft : left = 0 <;>
    simp [hleft, Run.counted, Run.events, List.filterMap_cons, Action.event?, hattempt, next]

theorem attemptsFrom_ends (left made before : Nat) (script : Http.Script)
    (htransient : TransientBefore request script before)
    (hfinal : (script.outcomeAt request before).isTransient = false) (hlt : before < left) :
    EndsAt endpoint request script made before
      ((attemptsFrom policy endpoint request left made).run script) := by
  induction before generalizing left made script with
  | zero =>
      obtain ⟨left, rfl⟩ := Nat.exists_eq_succ_of_ne_zero (Nat.ne_of_gt hlt)
      obtain ⟨result, hs⟩ := settle_of_not_transient endpoint request hfinal
      have hrun := attemptsFrom_settled policy left made script
        (by rw [Http.Script.answer_fst]; exact hs)
      rw [Http.Script.answer_fst, Http.Script.answer_snd] at hrun
      rw [hrun]
      exact ⟨dictates_of_settle hs (made + 1), rfl, rfl, rfl⟩
  | succ before ih =>
      obtain ⟨left, rfl⟩ := Nat.exists_eq_succ_of_ne_zero (Nat.ne_of_gt (Nat.zero_lt_of_lt hlt))
      obtain ⟨hzero, hrest⟩ := (transientBefore_succ request).mp htransient
      have hshift := Http.Script.outcomeAt_after script request 1 before
      rw [Nat.add_comm 1 before] at hshift
      have hnext := ih left (made + 1) (script.after request 1) hrest (by rw [hshift]; exact hfinal)
        (Nat.lt_of_succ_lt_succ hlt)
      obtain ⟨hvalue, hattempts, hcounted, hleft⟩ :=
        attemptsFrom_step policy endpoint request left made script hzero
      refine ⟨?_, ?_, ?_, ?_⟩
      · have hdictates := hnext.value
        rw [hshift, Nat.add_right_comm made 1 before] at hdictates
        rw [hvalue]
        exact hdictates
      · rw [hattempts, hnext.attempts, firstAttempts_succ request script]
      · rw [hcounted, hnext.counted, counted_succ]
      · rw [hleft, hnext.rest, Http.Script.after_after, Nat.add_comm 1]

theorem attemptsFrom_exhausts (left made : Nat) (script : Http.Script)
    (htransient : TransientBefore request script left) :
    Exhausts endpoint request script made left
      ((attemptsFrom policy endpoint request left made).run script) := by
  induction left generalizing made script with
  | zero => exact ⟨rfl, rfl, rfl, (Http.Script.after_zero script request).symm⟩
  | succ left ih =>
      obtain ⟨hzero, hrest⟩ := (transientBefore_succ request).mp htransient
      have hnext := ih (made + 1) (script.after request 1) hrest
      obtain ⟨hvalue, hattempts, hcounted, hleft⟩ :=
        attemptsFrom_step policy endpoint request left made script hzero
      refine ⟨?_, ?_, ?_, ?_⟩
      · rw [hvalue, hnext.value, Nat.add_right_comm, Nat.add_assoc]
      · rw [hattempts, hnext.attempts, firstAttempts_succ request script]
      · rw [hcounted, hnext.counted, counted_succ]
      · rw [hleft, hnext.rest, Http.Script.after_after, Nat.add_comm 1]

end Loop

/-! ## Calls -/

/-- What a call does under the policy when the service answers by the
script. `numbered` bounds all that the attempt counter is ever seen at. -/
structure Retried (policy : RetryPolicy) (endpoint : Endpoint) (request : Request)
    (script : Http.Script) (run : Run (Except Fault Delivery)) : Prop where
  ends : ∀ before < policy.maxAttempts, TransientBefore request script before →
    (script.outcomeAt request before).isTransient = false →
      EndsAt endpoint request script 0 before run
  exhausts : TransientBefore request script policy.maxAttempts →
    Exhausts endpoint request script 0 policy.maxAttempts run
  numbered : run.attempts.length ≤ policy.maxAttempts ∧
    (∀ n ∈ run.counted, 0 < n ∧ n ≤ policy.maxAttempts) ∧
    ∀ delivery, run.value = .ok delivery → delivery.attempts = run.attempts.length
  sameRequest : ∀ a ∈ run.attempts, a.request = request

theorem length_firstAttempts (request : Request) (script : Http.Script) (count : Nat) :
    (firstAttempts request script count).length = count := by
  rw [firstAttempts, List.length_map, List.length_range]

/-- Either some attempt within the limit is the first with an outcome that
is not transient, or there is none. -/
theorem transientBefore_or_first (request : Request) (script : Http.Script) (limit : Nat) :
    TransientBefore request script limit ∨ ∃ before < limit,
      TransientBefore request script before ∧
        (script.outcomeAt request before).isTransient = false := by
  induction limit with
  | zero => exact .inl fun i hi => absurd hi (Nat.not_lt_zero i)
  | succ limit ih =>
      rcases ih with hall | ⟨before, hlt, hfirst⟩
      · cases hlast : (script.outcomeAt request limit).isTransient with
        | false => exact .inr ⟨limit, Nat.lt_succ_self limit, hall, hlast⟩
        | true =>
            refine .inl fun i hi => ?_
            rcases Nat.lt_succ_iff_lt_or_eq.mp hi with hi | rfl
            · exact hall i hi
            · exact hlast
      · exact .inr ⟨before, Nat.lt_succ_of_lt hlt, hfirst⟩

theorem sendRetrying_retried (policy : RetryPolicy) (endpoint : Endpoint) (request : Request)
    (script : Http.Script) : Retried policy endpoint request script
      ((sendRetrying policy endpoint request).run script) := by
  have hsame :=
    (attemptsFrom_exchange policy endpoint request policy.maxAttempts 0 script).request_eq
  refine ⟨fun before hlt htransient hfinal => ?_, fun htransient => ?_, ?_, hsame⟩
  · exact attemptsFrom_ends policy endpoint request _ 0 before script htransient hfinal hlt
  · exact attemptsFrom_exhausts policy endpoint request _ 0 script htransient
  · rw [sendRetrying]
    rcases transientBefore_or_first request script policy.maxAttempts with
      htransient | ⟨before, hlt, htransient, hfinal⟩
    · have h := attemptsFrom_exhausts policy endpoint request _ 0 script htransient
      rw [h.attempts, h.counted, h.value, length_firstAttempts]
      refine ⟨Nat.le_refl _, fun n hn => ?_, fun delivery hok => by cases hok⟩
      obtain ⟨i, hi, rfl⟩ := List.mem_map.mp hn
      have hi := List.mem_range.mp hi
      omega
    · have h := attemptsFrom_ends policy endpoint request _ 0 before script htransient hfinal hlt
      rw [h.attempts, h.counted, length_firstAttempts]
      refine ⟨hlt, fun n hn => ?_, fun delivery hok => ?_⟩
      · obtain ⟨i, hi, rfl⟩ := List.mem_map.mp hn
        have hi := List.mem_range.mp hi
        omega
      · have hvalue := h.value
        rw [hok] at hvalue
        generalize script.outcomeAt request before = outcome at hvalue
        cases hvalue
        exact congrArg (· + 1) (Nat.zero_add before)

namespace Client

/-- Calls one after the other, whatever becomes of each. -/
def sendAll (client : Client) : List Call → Session (List (Except Fault Delivery))
  | [] => pure []
  | call :: calls => do
    let sent ← client.send call
    let later ← client.sendAll calls
    return sent :: later

/-- How a call runs on a script: as its request does, if there is one below
the client's base. Without one nothing is sent. -/
def Runs (client : Client) (call : Call) (script : Http.Script)
    (run : Run (Except Fault Delivery)) : Prop :=
  match call.request? client.base with
  | some request => Retried client.policy call.endpoint request script run
  | none => run = ⟨.error (.invalidUrl call.endpoint client.base.text), [], script⟩

theorem send_runs (client : Client) (call : Call) (script : Http.Script) :
    client.Runs call script ((client.send call).run script) := by
  cases hrequest : call.request? client.base with
  | none =>
      simp only [Runs, send, hrequest]
      rfl
  | some request =>
      simp only [Runs, send, hrequest]
      exact sendRetrying_retried ..

/-- The runs of calls in a row. Each starts on what the one before it has
left of the script and goes as it would on its own. -/
inductive InTurn (client : Client) :
    Http.Script → List Call → List (Run (Except Fault Delivery)) → Http.Script → Prop
  | done {script : Http.Script} : InTurn client script [] [] script
  | call {script rest : Http.Script} {call : Call} {calls : List Call}
      {run : Run (Except Fault Delivery)} {runs : List (Run (Except Fault Delivery))} :
      client.Runs call script run → InTurn client run.rest calls runs rest →
      InTurn client script (call :: calls) (run :: runs) rest

theorem sendAll_inTurn (client : Client) (calls : List Call) (script : Http.Script) :
    ∃ runs, InTurn client script calls runs ((client.sendAll calls).run script).rest ∧
      ((client.sendAll calls).run script).value = runs.map (·.value) ∧
      ((client.sendAll calls).run script).actions = runs.flatMap (·.actions) := by
  induction calls generalizing script with
  | nil => exact ⟨[], .done, rfl, rfl⟩
  | cons call calls ih =>
      obtain ⟨runs, hturn, hvalue, hactions⟩ := ih ((client.send call).run script).rest
      refine ⟨(client.send call).run script :: runs, .call (client.send_runs call script) ?_, ?_,
        ?_⟩
      · simpa only [sendAll, Session.rest_bind, Session.rest_pure] using hturn
      · simp only [sendAll, Session.value_bind, Session.value_pure, hvalue, List.map_cons]
      · simp only [sendAll, Session.actions_bind, Session.actions_pure, List.append_nil, hactions,
          List.flatMap_cons]

end Client

/-- A call makes the attempts up to the first outcome that is not transient
and has the result that this one dictates; if there is none within its
limit it makes as many attempts as the limit is and finds the service
unavailable. All of its attempts send one request. Calls in a row go each
like this, on the outcomes that those before it have left. -/
theorem attempts_end_at_first_final_outcome :
    (∀ outcome : Outcome, outcome.isTransient = true ↔
      (∃ r, outcome = .responded r ∧ (r.status = 429 ∨ r.status = 503)) ∨
        outcome = .unreachable ∨ outcome = .timedOut) ∧
    (∀ (policy : RetryPolicy) (endpoint : Endpoint) (request : Request) (script : Http.Script),
      Retried policy endpoint request script
        ((sendRetrying policy endpoint request).run script)) ∧
    ∀ (client : Client) (calls : List Call) (script : Http.Script), ∃ runs,
      client.InTurn script calls runs ((client.sendAll calls).run script).rest ∧
      ((client.sendAll calls).run script).value = runs.map (·.value) ∧
      ((client.sendAll calls).run script).actions = runs.flatMap (·.actions) :=
  ⟨fun _ => isTransient_iff, sendRetrying_retried, Client.sendAll_inTurn⟩

end Status

end UploadHooks
