import UploadHooks.Session

/-!
# What a composed session does

The views of a session put together with `>>=`: its result is that of the
second part, which starts on the script that the first part leaves, and
what is done is done in that order. With the views of the single actions
this is all that later proofs need; none of them opens a run.

All equations are for `simp`, which reads off what a session does from how
it is written.

A session built from these parts takes the outcomes of its requests from
the front of the script and leaves the others (`ReadsInOrder`).
-/

namespace UploadHooks

namespace Session

variable {α β : Type}

/-! ## Nothing done -/

@[simp] theorem actions_pure (a : α) (script : Http.Script) :
    ((pure a : Session α).run script).actions = [] := rfl

@[simp] theorem value_pure (a : α) (script : Http.Script) :
    ((pure a : Session α).run script).value = a := rfl

@[simp] theorem rest_pure (a : α) (script : Http.Script) :
    ((pure a : Session α).run script).rest = script := rfl

@[simp] theorem attempts_pure (a : α) (script : Http.Script) :
    ((pure a : Session α).run script).attempts = [] := rfl

@[simp] theorem fetches_pure (a : α) (script : Http.Script) :
    ((pure a : Session α).run script).fetches = [] := rfl

/-! ## One after the other -/

section Bind

variable (session : Session α) (next : α → Session β) (script : Http.Script)

@[simp] theorem value_bind :
    ((session >>= next).run script).value =
      ((next (session.run script).value).run (session.run script).rest).value := rfl

@[simp] theorem rest_bind :
    ((session >>= next).run script).rest =
      ((next (session.run script).value).run (session.run script).rest).rest := rfl

@[simp] theorem actions_bind :
    ((session >>= next).run script).actions =
      (session.run script).actions ++
        ((next (session.run script).value).run (session.run script).rest).actions := rfl

@[simp] theorem attempts_bind :
    ((session >>= next).run script).attempts =
      (session.run script).attempts ++
        ((next (session.run script).value).run (session.run script).rest).attempts := by
  rw [run_bind]
  exact List.filterMap_append ..

@[simp] theorem fetches_bind :
    ((session >>= next).run script).fetches =
      (session.run script).fetches ++
        ((next (session.run script).value).run (session.run script).rest).fetches := by
  rw [run_bind]
  exact List.filterMap_append ..

end Bind

/-! ## Single actions -/

section Actions

variable (script : Http.Script)

@[simp] theorem actions_log (event : Event) :
    ((log event).run script).actions = [.logged event] := rfl

@[simp] theorem rest_log (event : Event) : ((log event).run script).rest = script := rfl

@[simp] theorem attempts_log (event : Event) : ((log event).run script).attempts = [] := rfl

@[simp] theorem fetches_log (event : Event) : ((log event).run script).fetches = [] := rfl

@[simp] theorem rest_wait (delay : Duration) : ((wait delay).run script).rest = script := rfl

@[simp] theorem attempts_wait (delay : Duration) : ((wait delay).run script).attempts = [] := rfl

@[simp] theorem fetches_wait (delay : Duration) : ((wait delay).run script).fetches = [] := rfl

@[simp] theorem value_attempt (request : Http.Request) :
    ((attempt request).run script).value = (script.answer request).1 := rfl

@[simp] theorem rest_attempt (request : Http.Request) :
    ((attempt request).run script).rest = (script.answer request).2 := rfl

@[simp] theorem attempts_attempt (request : Http.Request) :
    ((attempt request).run script).attempts = [⟨request, (script.answer request).1⟩] := rfl

@[simp] theorem fetches_attempt (request : Http.Request) :
    ((attempt request).run script).fetches = [] := rfl

@[simp] theorem value_fetch (store : Schema.Store) (key : Schema.Key) :
    ((fetch store key).run script).value = (store key).result := rfl

@[simp] theorem rest_fetch (store : Schema.Store) (key : Schema.Key) :
    ((fetch store key).run script).rest = script := rfl

@[simp] theorem actions_fetch (store : Schema.Store) (key : Schema.Key) :
    ((fetch store key).run script).actions = [.fetched key (store key).attempts] := rfl

@[simp] theorem attempts_fetch (store : Schema.Store) (key : Schema.Key) :
    ((fetch store key).run script).attempts = [] := rfl

@[simp] theorem fetches_fetch (store : Schema.Store) (key : Schema.Key) :
    ((fetch store key).run script).fetches = [(key, (store key).attempts)] := rfl

end Actions

end Session

/-! ## The script that is left -/

/-- The requests of a run that could be sent. Each of them has taken its
outcome from the script. -/
def Run.sent {α : Type} (r : Run α) : Nat := r.attempts.countP (·.request.isSendable)

namespace Session

variable {α β : Type}

/-- What is left of the script is what the requests have not taken. -/
def ReadsInOrder (session : Session α) : Prop :=
  ∀ script, (session.run script).rest = script.drop (session.run script).sent

namespace ReadsInOrder

theorem pure (a : α) : ReadsInOrder (Pure.pure a : Session α) := fun _ => rfl

theorem log (event : Event) : ReadsInOrder (log event) := fun _ => rfl

theorem wait (delay : Duration) : ReadsInOrder (wait delay) := fun _ => rfl

theorem attempt (request : Http.Request) : ReadsInOrder (attempt request) := by
  intro script
  rw [rest_attempt, Run.sent, attempts_attempt, List.countP_singleton]
  cases hsend : request.isSendable with
  | false => simp [Http.Script.answer, hsend]
  | true => cases script <;> simp [Http.Script.answer, hsend]

theorem bind {session : Session α} {next : α → Session β} (h : ReadsInOrder session)
    (hnext : ∀ a, ReadsInOrder (next a)) : ReadsInOrder (session >>= next) := by
  intro script
  rw [rest_bind, hnext, Run.sent, Run.sent, attempts_bind, List.countP_append, ← List.drop_drop]
  exact congrArg (List.drop _) (h script)

end ReadsInOrder

end Session

end UploadHooks
