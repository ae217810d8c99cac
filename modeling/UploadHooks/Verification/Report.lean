import UploadHooks.Verification

/-!
# Rejection reports

A rejection is reported to the status service as a JSON object that holds
the metadata itself, what is known of its version and filename, and the
issues one by one. The members have a fixed order.
-/

namespace UploadHooks

namespace Verification

structure Report where
  schemaVersion : Option String
  filename : Option String
  metadata : Metadata
  issues : List String

namespace Report

def schemaName : String := "dex-metadata-verify"

/-- The canonical version when the metadata resolves, the declared one
otherwise. -/
def versionOf (m : Metadata) : Option String :=
  match resolve m with
  | .ok upload => some upload.version.text
  | .error _ => m.get? versionField

def ofRejection (m : Metadata) (rejection : Rejection) : Report :=
  ⟨versionOf m, Filename.find? m, m, rejection.issueMessages⟩

def chars (r : Report) : List Char :=
  Json.objectChars
    [("schema_version", Json.textOrNullChars r.schemaVersion),
      ("schema_name", Json.stringChars schemaName),
      ("filename", Json.textOrNullChars r.filename),
      ("metadata", r.metadata.jsonChars),
      ("issues", Json.listChars (r.issues.map Json.stringChars))]

def text (r : Report) : String := String.ofList r.chars

end Report

end Verification

end UploadHooks
