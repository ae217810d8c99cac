import UploadHooks.Schema.Store
import UploadHooks.Schema.Validation
import UploadHooks.Session

/-!
# Verifying metadata

Metadata is accepted when it resolves, its use case has a configuration,
the configuration has the definition asked for, and no rule and no
filename check raises an issue. The first of these stages to fail decides
how it is rejected; within the last one all issues are collected.

`judge` is the part after the configuration has been fetched, and needs no
session.
-/

namespace UploadHooks

namespace Verification

/-- The metadata field that asks for a version of the definition. -/
def schemaVersionField : String := "schema_version"

/-- Why metadata is rejected. -/
inductive Rejection where
  | unsupportedVersion (declared : String)
  | missingFields (fields : List String)
  | schemaNotFound (fault : Schema.StoreFault)
  | validationFailed (issues : List Issue)
  deriving Repr

namespace Rejection

def ofResolve : ResolveFault → Rejection
  | .unsupportedVersion declared => .unsupportedVersion declared
  | .missingFields fields => .missingFields fields

def message : Rejection → String
  | .unsupportedVersion declared => "Unsupported metadata version: " ++ declared
  | .missingFields fields =>
    "Missing one or more required metadata fields: " ++ ResolveFault.fieldList fields
  | .schemaNotFound fault => fault.message
  | .validationFailed issues => String.intercalate "; " (issues.map Issue.text)

/-- One line per issue; a rejection without issues is a line itself. -/
def issueMessages : Rejection → List String
  | .validationFailed issues => issues.map Issue.text
  | rejection => [rejection.message]

end Rejection

/-- The definition that the metadata asks for. -/
def definitionFor (key : Schema.Key) (config : Schema.Config) (m : Metadata) :
    Except Rejection Schema.Definition :=
  (config.select (m.get? schemaVersionField)).mapError fun fault =>
    .schemaNotFound (.notFound key.path (.selection fault))

/-- The verdict on metadata, given what the store has answered. -/
def judge (key : Schema.Key) (m : Metadata) :
    Except Schema.StoreFault Schema.Config → Except Rejection Unit
  | .error fault => .error (.schemaNotFound fault)
  | .ok config =>
    match definitionFor key config m with
    | .error rejection => .error rejection
    | .ok definition =>
      match Schema.allIssues m definition with
      | [] => .ok ()
      | issue :: issues => .error (.validationFailed (issue :: issues))

/-- Resolves, fetches once and judges. -/
def check (store : Schema.Store) (m : Metadata) : Session (Except Rejection Unit) :=
  match resolve m with
  | .error fault => pure (.error (.ofResolve fault))
  | .ok upload => do
    let key := Schema.Key.forUpload upload
    let config ← Session.fetch store key
    return judge key m config

end Verification

end UploadHooks
