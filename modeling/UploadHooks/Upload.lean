import UploadHooks.Metadata
import UploadHooks.Version

/-!
# Resolving an upload

An upload declares the version of its metadata in the field `version`,
and that version decides which two fields name its use case and the
category of it:

- `1.0`: `meta_destination_id` and `meta_ext_event`;
- `2.0`: `data_stream_id` and `data_stream_route`.

Without a declaration the oldest version applies. A declared version is
compared as a number, so `2` and `2.00` are both `2.0`. The two values are
taken as they are.
-/

namespace UploadHooks

/-- The metadata field that declares the version. -/
def versionField : String := "version"

inductive MetadataVersion where
  | v1
  | v2
  deriving DecidableEq, Repr

inductive ResolveFault where
  | unsupportedVersion (declared : String)
  | missingFields (fields : List String)
  deriving DecidableEq, Repr

namespace ResolveFault

/-- Field names in single quotes, in brackets. -/
def fieldList (fields : List String) : String :=
  "[" ++ String.intercalate ", " (fields.map fun f => "'" ++ f ++ "'") ++ "]"

def message : ResolveFault → String
  | .unsupportedVersion declared => "Unsupported metadata version: " ++ declared
  | .missingFields fields =>
    "Missing one or more required metadata fields: " ++ fieldList fields

end ResolveFault

namespace MetadataVersion

/-- Oldest first. -/
def supported : List MetadataVersion := [.v1, .v2]

def text : MetadataVersion → String
  | .v1 => "1.0"
  | .v2 => "2.0"

/-- The fields that hold the use case and its category. -/
def idFields : MetadataVersion → String × String
  | .v1 => ("meta_destination_id", "meta_ext_event")
  | .v2 => ("data_stream_id", "data_stream_route")

def major : MetadataVersion → Nat
  | .v1 => 1
  | .v2 => 2

/-- Whether a version denotes the same numbers as a supported one. -/
def denotes (wanted : Version) (version : MetadataVersion) : Bool :=
  match Version.parse version.text with
  | .ok v => Version.same v wanted
  | .error _ => false

def parse (declared : String) : Except ResolveFault MetadataVersion :=
  match Version.parse declared with
  | .error _ => .error (.unsupportedVersion declared)
  | .ok wanted =>
    match supported.find? (denotes wanted) with
    | some version => .ok version
    | none => .error (.unsupportedVersion declared)

/-- The version that metadata declares, or the oldest one. -/
def ofMetadata (m : Metadata) : Except ResolveFault MetadataVersion :=
  match m.get? versionField with
  | some declared => parse declared
  | none => .ok .v1

end MetadataVersion

structure ResolvedUpload where
  version : MetadataVersion
  useCase : String
  useCaseCategory : String
  deriving DecidableEq, Repr

/-- The version and ids of an upload. Every id field that is missing is
named. -/
def resolve (m : Metadata) : Except ResolveFault ResolvedUpload :=
  match MetadataVersion.ofMetadata m with
  | .error e => .error e
  | .ok version =>
    let (useCaseField, categoryField) := version.idFields
    match m.get? useCaseField, m.get? categoryField with
    | some useCase, some category => .ok ⟨version, useCase, category⟩
    | _, _ => .error (.missingFields ([useCaseField, categoryField].filter (!m.contains ·)))

end UploadHooks
