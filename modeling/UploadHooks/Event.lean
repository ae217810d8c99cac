import UploadHooks.Duration

/-!
# Log events

What the hooks report about themselves while they run, at the two levels
that call for attention. An event is written on one line: its level, its
message and its fields.
-/

namespace UploadHooks

inductive Event where
  | throttled (delay : Duration) (endpoint : String) (attempt limit status : Nat)
  | unreachable (delay : Duration) (fault endpoint : String) (attempt limit : Nat)
  | statusUrlMissing
  | reportingDisabled (uploadId : String)
  | reportingFailed (uploadId error : String)
  | traceLookupFailed (uploadId error : String)
  | malformedMetadata (uploadId error : String)
  | postCreateFailed (uploadId error : String)
  | postFinishFailed (uploadId error : String)
  deriving DecidableEq, Repr

namespace Event

inductive Level where
  | warn
  | error
  deriving DecidableEq, Repr

def Level.text : Level → String
  | .warn => "WARN"
  | .error => "ERROR"

def level : Event → Level
  | .throttled .. => .warn
  | .unreachable .. => .warn
  | .statusUrlMissing => .warn
  | .reportingDisabled _ => .warn
  | .reportingFailed .. => .error
  | .traceLookupFailed .. => .warn
  | .malformedMetadata .. => .warn
  | .postCreateFailed .. => .error
  | .postFinishFailed .. => .error

def message : Event → String
  | .throttled delay .. =>
    "processing status API throttled request, retrying in " ++ delay.text
  | .unreachable delay fault .. =>
    "processing status API unreachable, retrying in " ++ delay.text ++ ": " ++ fault
  | .statusUrlMissing => "PS_API_URL not set; status reporting disabled"
  | .reportingDisabled _ => "status reporting disabled; rejection not reported"
  | .reportingFailed .. => "failed to report metadata rejection"
  | .traceLookupFailed .. => "upload trace lookup failed"
  | .malformedMetadata .. => "malformed metadata"
  | .postCreateFailed .. => "post-create failed"
  | .postFinishFailed .. => "post-finish failed"

def attemptFields (endpoint : String) (attempt limit : Nat) : List (String × String) :=
  [("endpoint", endpoint), ("attempt", Nat.repr attempt), ("max_attempts", Nat.repr limit)]

def fields : Event → List (String × String)
  | .throttled _ endpoint attempt limit status =>
    attemptFields endpoint attempt limit ++ [("status", Nat.repr status)]
  | .unreachable _ _ endpoint attempt limit => attemptFields endpoint attempt limit
  | .statusUrlMissing => []
  | .reportingDisabled uploadId => [("upload_id", uploadId)]
  | .reportingFailed uploadId error => [("upload_id", uploadId), ("error", error)]
  | .traceLookupFailed uploadId error => [("upload_id", uploadId), ("error", error)]
  | .malformedMetadata uploadId error => [("upload_id", uploadId), ("error", error)]
  | .postCreateFailed uploadId error => [("upload_id", uploadId), ("error", error)]
  | .postFinishFailed uploadId error => [("upload_id", uploadId), ("error", error)]

def line (e : Event) : String :=
  e.level.text ++ " " ++ e.message ++
    String.join (e.fields.map fun f => " " ++ f.1 ++ "=" ++ f.2)

end Event

end UploadHooks
