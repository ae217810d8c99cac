import UploadHooks.Proofs.Session
import UploadHooks.Status.Client

/-!
# The attempts of one call

What a call sends, and how its result follows from that.

`settle` is the decision on a single outcome, without what is logged and
waited for: a result, or none as long as the outcome is transient.
`Exchange` says which attempts a call with so many left can make, one rule
for each way on: nothing is left, the outcome settles the call, or it is
transient and the call goes on with one attempt less. Every call makes an
exchange (`attemptsFrom_exchange`), and the last attempt of it holds the
result (`attemptsFrom_value`), so that a flow of calls can be described by
its exchanges alone.
-/

namespace UploadHooks

namespace Http

/-- Outcomes that are worth another attempt: the service is overloaded, or
could not be reached in time. -/
def Outcome.isTransient : Outcome → Bool
  | .responded r => r.isThrottled
  | .unreachable => true
  | .timedOut => true
  | .dropped => false
  | .unsendable => false

theorem Response.isSuccess_of_isThrottled {r : Response} (h : r.isThrottled = true) :
    r.isSuccess = false := by
  simp only [isThrottled, Bool.or_eq_true, beq_iff_eq] at h
  rcases h with h | h <;> simp [isSuccess, h]

/-- Whatever the request, the script is read from the front. -/
theorem Script.answer_sendable {request : Request} (h : request.isSendable = true)
    (outcome : Outcome) (script : Script) :
    Script.answer request (outcome :: script) = (outcome, script) := by
  simp [answer, h]

theorem Script.answer_nil {request : Request} (h : request.isSendable = true) :
    Script.answer request [] = (.unreachable, []) := by
  simp [answer, h]

theorem Script.answer_unsendable {request : Request} (h : request.isSendable = false)
    (script : Script) : Script.answer request script = (.unsendable, script) := by
  simp [answer, h]

end Http

namespace Status

open Http (Outcome Request Response Attempt)

/-! ## The decision on one outcome -/

/-- The result that an outcome settles its call with, if it does. -/
def settle (endpoint : Endpoint) (request : Request) : Outcome → Option (Except Fault Response)
  | .responded r =>
    if r.isSuccess then some (.ok r)
    else if r.isThrottled then none
    else some (.error (.refused endpoint r.status (r.body.text.toOption.getD "")))
  | .unreachable => none
  | .timedOut => none
  | .dropped => some (.error (.transport endpoint (.sending request.shownUrl)))
  | .unsendable => some (.error (.transport endpoint (.building request.shownUrl)))

section Settle

variable {endpoint : Endpoint} {request : Request} {outcome : Outcome}

theorem settle_eq_none_iff : settle endpoint request outcome = none ↔
    outcome.isTransient = true := by
  cases outcome with
  | responded r =>
      rw [settle, Outcome.isTransient]
      cases ht : r.isThrottled with
      | true => simp [Response.isSuccess_of_isThrottled ht]
      | false => cases r.isSuccess <;> simp
  | unreachable => simp [settle, Outcome.isTransient]
  | timedOut => simp [settle, Outcome.isTransient]
  | dropped => simp [settle, Outcome.isTransient]
  | unsendable => simp [settle, Outcome.isTransient]

theorem settle_eq_ok_iff {response : Response} :
    settle endpoint request outcome = some (.ok response) ↔
      outcome = .responded response ∧ response.isSuccess = true := by
  cases outcome with
  | responded r =>
      rw [settle]
      cases hs : r.isSuccess with
      | true =>
          simp only [if_true, Option.some.injEq, Except.ok.injEq, Outcome.responded.injEq]
          constructor
          · rintro rfl
            exact ⟨rfl, hs⟩
          · exact fun h => h.1
      | false =>
          constructor
          · intro h
            cases ht : r.isThrottled <;> simp [ht] at h
          · rintro ⟨h, hr⟩
            obtain rfl := Outcome.responded.inj h
            simp [hs] at hr
  | unreachable => simp [settle]
  | timedOut => simp [settle]
  | dropped => simp [settle]
  | unsendable => simp [settle]

theorem settle_of_not_transient (endpoint : Endpoint) (request : Request)
    (h : outcome.isTransient = false) :
    ∃ result, settle endpoint request outcome = some result := by
  cases hs : settle endpoint request outcome with
  | some result => exact ⟨result, rfl⟩
  | none =>
      rw [settle_eq_none_iff.mp hs] at h
      cases h

/-- The decision is the same on every attempt and under every policy. -/
theorem classify_settled {result : Except Fault Response}
    (h : settle endpoint request outcome = some result) (policy : RetryPolicy) (attempt : Nat) :
    classify policy endpoint request attempt outcome =
      match result with
      | .ok response => .delivered response
      | .error fault => .failed fault := by
  cases outcome with
  | responded r =>
      simp only [settle, classify] at h ⊢
      split at h
      · next hs => simp only [hs, if_true]; cases h; rfl
      · next hs =>
        split at h
        · cases h
        · next ht => simp only [hs, ht]; cases h; rfl
  | unreachable => cases h
  | timedOut => cases h
  | dropped => cases h; rfl
  | unsendable => cases h; rfl

theorem classify_transient (policy : RetryPolicy) (endpoint : Endpoint) (request : Request)
    (attempt : Nat) (h : outcome.isTransient = true) : ∃ event delay,
      classify policy endpoint request attempt outcome = .again event delay := by
  cases outcome with
  | responded r =>
      rw [Outcome.isTransient] at h
      simp only [classify, Response.isSuccess_of_isThrottled h, h, if_true, Bool.false_eq_true,
        if_false]
      exact ⟨_, _, rfl⟩
  | unreachable => exact ⟨_, _, rfl⟩
  | timedOut => exact ⟨_, _, rfl⟩
  | dropped => cases h
  | unsendable => cases h

/-- All that the call goes on with after a transient outcome. -/
theorem classify_again_cases {policy : RetryPolicy} {attempt : Nat} {event : Event}
    {delay : Duration} (h : classify policy endpoint request attempt outcome = .again event delay) :
    (∃ r, outcome = .responded r ∧ r.isThrottled = true ∧
      delay = policy.throttleDelay r.retryAfter ∧
      event = .throttled delay endpoint.label attempt policy.maxAttempts r.status) ∨
    (outcome = .unreachable ∨ outcome = .timedOut) ∧ delay = policy.delay ∧
      event = classify.unreachable policy endpoint attempt request := by
  cases outcome with
  | responded r =>
      simp only [classify] at h
      split at h
      · cases h
      · split at h
        · next hthrottled =>
          cases h
          exact .inl ⟨r, rfl, hthrottled, rfl, rfl⟩
        · cases h
  | unreachable =>
      cases h
      exact .inr ⟨.inl rfl, rfl, rfl⟩
  | timedOut =>
      cases h
      exact .inr ⟨.inr rfl, rfl, rfl⟩
  | dropped => cases h
  | unsendable => cases h

end Settle

/-! ## The steps of a call -/

section Steps

variable (policy : RetryPolicy) {endpoint : Endpoint} {request : Request}
variable (left made : Nat) (script : Http.Script)

/-- An attempt that settles the call is the last one. -/
theorem attemptsFrom_settled {result : Except Fault Response}
    (h : settle endpoint request (script.answer request).1 = some result) :
    (attemptsFrom policy endpoint request (left + 1) made).run script =
      ⟨result.map (⟨·, made + 1⟩), [.attempted ⟨request, (script.answer request).1⟩],
        (script.answer request).2⟩ := by
  rw [attemptsFrom, Session.run_bind, Session.value_attempt, classify_settled h]
  cases result with
  | ok response => rfl
  | error fault => rfl

/-- After a transient outcome the call goes on with what the attempt has
left of the script; there is a wait only if there is another attempt. -/
theorem attemptsFrom_again {event : Event} {delay : Duration}
    (h : classify policy endpoint request (made + 1) (script.answer request).1 =
      .again event delay) :
    let next := (attemptsFrom policy endpoint request left (made + 1)).run
      (script.answer request).2
    (attemptsFrom policy endpoint request (left + 1) made).run script =
      ⟨next.value,
        .attempted ⟨request, (script.answer request).1⟩ :: .logged event ::
          (if left = 0 then [] else [.waited delay]) ++ next.actions,
        next.rest⟩ := by
  rw [attemptsFrom, Session.run_bind, Session.value_attempt, h]
  by_cases hl : left = 0
  · subst hl
    rfl
  · simp only [ne_eq, hl, not_false_eq_true, if_true, if_false]
    rfl

/-- The same, without what is logged and waited for. -/
theorem attemptsFrom_transient (endpoint : Endpoint)
    (h : (script.answer request).1.isTransient = true) :
    let run := (attemptsFrom policy endpoint request (left + 1) made).run script
    let next := (attemptsFrom policy endpoint request left (made + 1)).run
      (script.answer request).2
    run.value = next.value ∧
      run.attempts = ⟨request, (script.answer request).1⟩ :: next.attempts ∧
      run.fetches = next.fetches ∧ run.rest = next.rest := by
  obtain ⟨event, delay, hc⟩ := classify_transient policy endpoint request (made + 1) h
  intro run next
  have hrun : run = _ := attemptsFrom_again policy left made script hc
  refine ⟨by rw [hrun], ?_, ?_, by rw [hrun]⟩
  · rw [hrun]
    by_cases hl : left = 0 <;>
      simp [hl, Run.attempts, List.filterMap_cons, Action.attempt?, next]
  · rw [hrun]
    by_cases hl : left = 0 <;>
      simp [hl, Run.fetches, List.filterMap_cons, Action.fetch?, next]

end Steps

/-! ## Exchanges -/

/-- The attempts that a call with `left` attempts can make. -/
inductive Exchange (request : Request) : Nat → List Attempt → Prop
  | spent : Exchange request 0 []
  | settled {left : Nat} {outcome : Outcome} : outcome.isTransient = false →
      Exchange request (left + 1) [⟨request, outcome⟩]
  | again {left : Nat} {outcome : Outcome} {attempts : List Attempt} :
      outcome.isTransient = true → Exchange request left attempts →
      Exchange request (left + 1) (⟨request, outcome⟩ :: attempts)

namespace Exchange

variable {request : Request} {left : Nat} {attempts : List Attempt}

theorem length_le (h : Exchange request left attempts) : attempts.length ≤ left := by
  induction h with
  | spent => exact Nat.le_refl 0
  | settled _ => simp
  | again _ _ ih => simpa using ih

theorem ne_nil (h : Exchange request left attempts) (hleft : 0 < left) : attempts ≠ [] := by
  cases h with
  | spent => cases hleft
  | settled _ => simp
  | again _ _ => simp

/-- All attempts of a call send the same request. -/
theorem request_eq (h : Exchange request left attempts) : ∀ a ∈ attempts, a.request = request := by
  induction h with
  | spent => simp
  | settled _ => simp
  | again _ _ ih => simpa using ih

end Exchange

/-- The result of a call that could make `limit` attempts. The last one
holds it, unless that one was as transient as those before. -/
def resultOf (endpoint : Endpoint) (limit : Nat) (attempts : List Attempt) :
    Except Fault Response :=
  (attempts.getLast?.bind fun a => settle endpoint a.request a.outcome).getD
    (.error (.unavailable endpoint limit))

theorem resultOf_settled {endpoint : Endpoint} {request : Request} {outcome : Outcome}
    {result : Except Fault Response} (h : settle endpoint request outcome = some result)
    (limit : Nat) : resultOf endpoint limit [⟨request, outcome⟩] = result := by
  simp [resultOf, h]

theorem resultOf_transient {a : Attempt} (h : a.outcome.isTransient = true)
    (endpoint : Endpoint) (limit : Nat) (attempts : List Attempt) :
    resultOf endpoint limit (a :: attempts) = resultOf endpoint limit attempts := by
  cases attempts with
  | nil => simp [resultOf, settle_eq_none_iff.mpr h]
  | cons b rest => rw [resultOf, List.getLast?_cons_cons, resultOf]

/-- The last attempt of a call brought a response of success. -/
def Delivered (attempts : List Attempt) (response : Response) : Prop :=
  ∃ a, attempts.getLast? = some a ∧ a.outcome = .responded response ∧ response.isSuccess = true

theorem resultOf_eq_ok_iff {endpoint : Endpoint} {limit : Nat} {attempts : List Attempt}
    {response : Response} :
    resultOf endpoint limit attempts = .ok response ↔ Delivered attempts response := by
  rw [resultOf, Delivered]
  constructor
  · intro h
    cases ha : attempts.getLast? with
    | none => simp [ha] at h
    | some a =>
        rw [ha, Option.bind_some] at h
        cases hs : settle endpoint a.request a.outcome with
        | none => simp [hs] at h
        | some result =>
            rw [hs, Option.getD_some] at h
            exact ⟨a, rfl, settle_eq_ok_iff.mp (hs.trans (congrArg some h))⟩
  · rintro ⟨a, ha, h⟩
    rw [ha, Option.bind_some, settle_eq_ok_iff.mpr h, Option.getD_some]

/-! ## The run of a call -/

theorem attemptsFrom_exchange (policy : RetryPolicy) (endpoint : Endpoint) (request : Request)
    (left made : Nat) (script : Http.Script) : Exchange request left
      ((attemptsFrom policy endpoint request left made).run script).attempts := by
  induction left generalizing made script with
  | zero => exact .spent
  | succ left ih =>
      cases ht : (script.answer request).1.isTransient with
      | true =>
          rw [(attemptsFrom_transient policy left made script endpoint ht).2.1]
          exact .again ht (ih ..)
      | false =>
          obtain ⟨result, hs⟩ := settle_of_not_transient endpoint request ht
          rw [attemptsFrom_settled policy left made script hs]
          exact .settled ht

theorem attemptsFrom_value (policy : RetryPolicy) (endpoint : Endpoint) (request : Request)
    (left made : Nat) (script : Http.Script) :
    let run := (attemptsFrom policy endpoint request left made).run script
    run.value.map (·.response) = resultOf endpoint (made + left) run.attempts := by
  induction left generalizing made script with
  | zero => rfl
  | succ left ih =>
      cases ht : (script.answer request).1.isTransient with
      | true =>
          obtain ⟨hvalue, hattempts, -⟩ :=
            attemptsFrom_transient policy left made script endpoint ht
          intro run
          rw [hvalue, hattempts, resultOf_transient ht, ih, Nat.add_right_comm, Nat.add_assoc]
      | false =>
          obtain ⟨result, hs⟩ := settle_of_not_transient endpoint request ht
          intro run
          have hrun : run = _ := attemptsFrom_settled policy left made script hs
          have hattempts : run.attempts = [⟨request, (script.answer request).1⟩] := by
            rw [Run.attempts, hrun]
            rfl
          rw [hattempts, resultOf_settled hs, hrun]
          cases result <;> rfl

theorem attemptsFrom_fetches (policy : RetryPolicy) (endpoint : Endpoint) (request : Request)
    (left made : Nat) (script : Http.Script) :
    ((attemptsFrom policy endpoint request left made).run script).fetches = [] := by
  induction left generalizing made script with
  | zero => rfl
  | succ left ih =>
      cases ht : (script.answer request).1.isTransient with
      | true => rw [(attemptsFrom_transient policy left made script endpoint ht).2.2.1, ih]
      | false =>
          obtain ⟨result, hs⟩ := settle_of_not_transient endpoint request ht
          rw [attemptsFrom_settled policy left made script hs]
          rfl

/-! ## Calls of a client -/

theorem Call.request?_of_canBeBase {base : Url} (h : base.canBeBase = true) (call : Call) :
    ∃ request, call.request? base = some request := by
  cases hp : base.path with
  | segments names => simp [Call.request?, Call.url?, Url.extend, Url.extendPath, hp]
  | bare text => simp [Url.canBeBase, hp] at h

theorem Call.body_of_request? {base : Url} {call : Call} {request : Request}
    (h : call.request? base = some request) : request.body = call.body := by
  obtain ⟨url, -, rfl⟩ := Option.map_eq_some_iff.mp h
  rfl

/-- The last attempt of a call brought a pair of ids. -/
def Answered (attempts : List Attempt) (span : TraceSpan) : Prop :=
  ∃ response text, Delivered attempts response ∧ response.body.text = .ok text ∧
    TraceSpan.ofBody? text = some span

namespace Client

variable (client : Client) (call : Call) (script : Http.Script)

/-- The attempts that a client can make at a call. -/
def Exchanges (attempts : List Attempt) : Prop :=
  ∃ request, call.request? client.base = some request ∧
    Exchange request client.policy.maxAttempts attempts

theorem Exchanges.length_le {client : Client} {call : Call} {attempts : List Attempt}
    (h : client.Exchanges call attempts) : attempts.length ≤ client.policy.maxAttempts := by
  obtain ⟨request, -, hex⟩ := h
  exact hex.length_le

theorem Exchanges.ne_nil {client : Client} {call : Call} {attempts : List Attempt}
    (h : client.Exchanges call attempts) (hpos : 0 < client.policy.maxAttempts) :
    attempts ≠ [] := by
  obtain ⟨request, -, hex⟩ := h
  exact hex.ne_nil hpos

theorem Exchanges.request_eq {client : Client} {call : Call} {attempts : List Attempt}
    (h : client.Exchanges call attempts) :
    ∀ a ∈ attempts, call.request? client.base = some a.request := by
  obtain ⟨request, hrequest, hex⟩ := h
  intro a ha
  rw [hex.request_eq a ha, hrequest]

theorem send_exchanges (hbase : client.base.canBeBase = true) :
    client.Exchanges call ((client.send call).run script).attempts := by
  obtain ⟨request, hr⟩ := call.request?_of_canBeBase hbase
  refine ⟨request, hr, ?_⟩
  simp only [send, hr]
  exact attemptsFrom_exchange ..

theorem send_ok_iff (response : Response) :
    ((client.send call).run script).value.map (·.response) = .ok response ↔
      Delivered ((client.send call).run script).attempts response := by
  cases hr : call.request? client.base with
  | none => simp [send, hr, Delivered, Except.map]
  | some request =>
      simp only [send, hr, sendRetrying]
      rw [attemptsFrom_value, resultOf_eq_ok_iff]

theorem fetches_send : ((client.send call).run script).fetches = [] := by
  cases hr : call.request? client.base with
  | none => simp [send, hr]
  | some request =>
      simp only [send, hr]
      exact attemptsFrom_fetches ..

theorem spanOfText_eq_ok_iff {endpoint : Endpoint} {text : String} {span : TraceSpan} :
    spanOfText endpoint text = .ok span ↔ TraceSpan.ofBody? text = some span := by
  rw [spanOfText]
  cases TraceSpan.ofBody? text <;> simp

/-- The ids in a response do not depend on the attempt it came on. -/
theorem spanOf_eq_ok_iff {endpoint : Endpoint} {delivery : Delivery} {span : TraceSpan} :
    spanOf endpoint delivery = .ok span ↔ ∃ text, delivery.response.body.text = .ok text ∧
      TraceSpan.ofBody? text = some span := by
  rw [spanOf]
  cases delivery.response.body.text with
  | error fault => simp
  | ok text => simp [spanOfText_eq_ok_iff]

@[simp] theorem attempts_sendForSpan : ((client.sendForSpan call).run script).attempts =
    ((client.send call).run script).attempts := by
  simp [sendForSpan]

@[simp] theorem attempts_sendForNothing : ((client.sendForNothing call).run script).attempts =
    ((client.send call).run script).attempts := by
  simp [sendForNothing]

@[simp] theorem fetches_sendForSpan : ((client.sendForSpan call).run script).fetches = [] := by
  simp [sendForSpan, fetches_send]

@[simp] theorem fetches_sendForNothing :
    ((client.sendForNothing call).run script).fetches = [] := by
  simp [sendForNothing, fetches_send]

theorem sendForSpan_ok_iff (span : TraceSpan) :
    ((client.sendForSpan call).run script).value = .ok span ↔
      Answered ((client.sendForSpan call).run script).attempts span := by
  rw [attempts_sendForSpan, sendForSpan, Session.value_bind, Session.value_pure]
  constructor
  · intro h
    cases hv : ((client.send call).run script).value with
    | error fault =>
        rw [hv] at h
        cases h
    | ok delivery =>
        rw [hv] at h
        obtain ⟨text, htext, hspan⟩ := spanOf_eq_ok_iff.mp h
        refine ⟨delivery.response, text, ?_, htext, hspan⟩
        rw [← send_ok_iff, hv]
        rfl
  · rintro ⟨response, text, hdelivered, htext, hspan⟩
    have hvalue := (send_ok_iff client call script response).mpr hdelivered
    cases hv : ((client.send call).run script).value with
    | error fault =>
        rw [hv] at hvalue
        cases hvalue
    | ok delivery =>
        rw [hv] at hvalue
        obtain rfl := Except.ok.inj hvalue
        exact spanOf_eq_ok_iff.mpr ⟨text, htext, hspan⟩

end Client

end Status

end UploadHooks
