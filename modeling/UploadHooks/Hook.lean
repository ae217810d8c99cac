import UploadHooks.Hook.Configuration
import UploadHooks.Lifecycle
import UploadHooks.Verification.Reporting

/-!
# The hooks

An upload server runs a hook before an upload is created, one after that
and one when the upload is complete. A hook says how it went with its exit
code: 0 when it is done, 1 when the upload is rejected or the hook has
failed, 2 when its configuration is no good. In the second case, and only
then, it prints one line, a JSON object with the upload's id and the
reason.
-/

namespace UploadHooks

namespace Hook

inductive Exit where
  | done
  | failed
  | misconfigured
  deriving DecidableEq, Repr

def Exit.code : Exit → Nat
  | .done => 0
  | .failed => 1
  | .misconfigured => 2

/-- What the caller of a hook gets: an exit code and standard output. -/
structure Completion where
  exit : Exit
  output : String
  deriving DecidableEq, Repr

/-- Nothing to say. -/
def Completion.done : Completion := ⟨.done, ""⟩

def Completion.misconfigured : Completion := ⟨.misconfigured, ""⟩

/-- The one line of a failure. -/
def failureLine (uploadId message : String) : String :=
  String.ofList
    (Json.objectChars
        [("upload_id", Json.stringChars uploadId), ("message", Json.stringChars message)] ++
      ['\n'])

def Completion.failure (uploadId message : String) : Completion :=
  ⟨.failed, failureLine uploadId message⟩

def malformedMessage (fault : Metadata.Fault) : String := "Malformed metadata: " ++ fault.message

/-! ## With the services at hand -/

/-- Accepts or rejects the metadata of an upload to be created. -/
def preCreate (store : Schema.Store) (reporter : Option Status.Client)
    (uploadId metadata : String) : Session Completion :=
  match Metadata.ofJson metadata with
  | .error fault => do
    Session.log (.malformedMetadata uploadId fault.message)
    return .failure uploadId (malformedMessage fault)
  | .ok m => do
    match ← Verification.verify store reporter uploadId m with
    | .ok () => return .done
    | .error rejection => return .failure uploadId rejection.message

/-- Opens the trace of an upload that has been created. -/
def postCreate (client : Status.Client) (uploadId metadata : String) : Session Completion :=
  match Metadata.ofJson metadata with
  | .error fault => return .failure uploadId (malformedMessage fault)
  | .ok m => do
    match ← Lifecycle.postCreate client uploadId m with
    | .ok _ => return .done
    | .error fault => do
      Session.log (.postCreateFailed uploadId fault.message)
      return .failure uploadId fault.message

/-- Closes the span of an upload that is complete. -/
def postFinish (client : Status.Client) (uploadId : String) : Session Completion := do
  match ← Lifecycle.postFinish client uploadId with
  | .ok _ => return .done
  | .error fault => do
    Session.log (.postFinishFailed uploadId fault.message)
    return .failure uploadId fault.message

/-! ## From the environment -/

/-- A hook with its arguments. Verification may be without an upload id. -/
inductive Invocation where
  | preCreate (metadata : String) (uploadId : Option String)
  | postCreate (uploadId metadata : String)
  | postFinish (uploadId : String)
  deriving DecidableEq, Repr

/-- A session that cannot start without its configuration. -/
def configured {α : Type} (configuration : Except ConfigurationFault α)
    (next : α → Session Completion) : Session Completion :=
  match configuration with
  | .ok a => next a
  | .error _ => return .misconfigured

/-- Runs a hook; `freshId` stands in for an upload id that is not given. -/
def Invocation.run (invocation : Invocation) (surroundings : Surroundings) (env : Environment)
    (freshId : String) : Session Completion :=
  match invocation with
  | .preCreate metadata uploadId =>
    configured (schemaStore surroundings env) fun store => do
      let reporter ← optionalClient env
      configured reporter fun reporter =>
        Hook.preCreate store reporter (uploadId.getD freshId) metadata
  | .postCreate uploadId metadata =>
    configured (requiredClient env) fun client => Hook.postCreate client uploadId metadata
  | .postFinish uploadId =>
    configured (requiredClient env) fun client => Hook.postFinish client uploadId

end Hook

end UploadHooks
