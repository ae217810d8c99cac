import UploadHooks.Event
import UploadHooks.Schema.Store

/-!
# Sessions

A hook works by asking its two services, waiting and logging. A `Session`
is such a piece of work: given the script of the status service it has a
result, it lists what was done in the order it was done, and it leaves
the rest of the script to the work after it.

The list of actions is all that can be observed of a session besides its
result. `attempts`, `events`, `waits` and `fetches` are views of it. What
the service gets to see of an attempt is up to its outcome.
-/

namespace UploadHooks

inductive Action where
  | fetched (key : Schema.Key) (attempts : List Http.Attempt)
  | attempted (attempt : Http.Attempt)
  | waited (delay : Duration)
  | logged (event : Event)
  deriving DecidableEq, Repr

namespace Action

def attempt? : Action → Option Http.Attempt
  | .attempted a => some a
  | _ => none

def event? : Action → Option Event
  | .logged e => some e
  | _ => none

def wait? : Action → Option Duration
  | .waited d => some d
  | _ => none

def fetch? : Action → Option (Schema.Key × List Http.Attempt)
  | .fetched key attempts => some (key, attempts)
  | _ => none

end Action

/-- A result, what was done for it, and the script that is left. -/
structure Run (α : Type) where
  value : α
  actions : List Action
  rest : Http.Script

namespace Run

variable {α : Type}

/-- The attempts at requests to the status service, also those at requests
that never leave. -/
def attempts (r : Run α) : List Http.Attempt := r.actions.filterMap Action.attempt?

def events (r : Run α) : List Event := r.actions.filterMap Action.event?

def waits (r : Run α) : List Duration := r.actions.filterMap Action.wait?

/-- The documents asked for, with the requests each took. -/
def fetches (r : Run α) : List (Schema.Key × List Http.Attempt) :=
  r.actions.filterMap Action.fetch?

end Run

def Session (α : Type) := Http.Script → Run α

namespace Session

variable {α β : Type}

def run (session : Session α) (script : Http.Script) : Run α := session script

protected def pure (a : α) : Session α := fun script => ⟨a, [], script⟩

protected def bind (session : Session α) (next : α → Session β) : Session β := fun script =>
  let first := session script
  let second := next first.value first.rest
  ⟨second.value, first.actions ++ second.actions, second.rest⟩

instance : Monad Session where
  pure := Session.pure
  bind := Session.bind

theorem run_pure (a : α) (script : Http.Script) :
    (pure a : Session α).run script = ⟨a, [], script⟩ := rfl

theorem run_bind (session : Session α) (next : α → Session β) (script : Http.Script) :
    (session >>= next).run script =
      ⟨((next (session.run script).value).run (session.run script).rest).value,
        (session.run script).actions ++
          ((next (session.run script).value).run (session.run script).rest).actions,
        ((next (session.run script).value).run (session.run script).rest).rest⟩ := rfl

def act (action : Action) : Session Unit := fun script => ⟨(), [action], script⟩

def log (event : Event) : Session Unit := act (.logged event)

def wait (delay : Duration) : Session Unit := act (.waited delay)

/-- One attempt at a request. -/
def attempt (request : Http.Request) : Session Http.Outcome := fun script =>
  let (outcome, rest) := script.answer request
  ⟨outcome, [.attempted ⟨request, outcome⟩], rest⟩

/-- One question to the document store. -/
def fetch (store : Schema.Store) (key : Schema.Key) :
    Session (Except Schema.StoreFault Schema.Config) := do
  let retrieval := store key
  act (.fetched key retrieval.attempts)
  return retrieval.result

end Session

end UploadHooks
