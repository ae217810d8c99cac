import UploadHooks.Schema.Store
import UploadHooks.Status.Client
import UploadHooks.Status.Settings

/-!
# Configuration of the hooks

The environment says where documents are kept, in a directory or on the
web, and where the status service is. A directory wins over a web address;
a blank variable counts as unset. Verification does without a status
service when none is configured, the other hooks need one.

A configuration fault is shown with the circumstances in which it arose,
the outermost first.
-/

namespace UploadHooks

namespace Hook

inductive ConfigurationFault where
  | noSchemaSource
  | invalidSchemaUrl (raw : String) (fault : Url.Fault)
  | schemaClient (fault : Schema.StoreFault)
  | status (fault : Status.Settings.Fault)
  | requiredStatus (fault : Status.Settings.Fault)
  deriving Repr

def directoryVariable : String := "UPLOAD_CONFIG_DIR"

def addressVariable : String := "UPLOAD_CONFIG_URL"

/-- All variables that a hook looks at. -/
def variableNames : List String :=
  [directoryVariable, addressVariable] ++ Status.Settings.variableNames

namespace ConfigurationFault

/-- What is said about a fault, from the outside in. -/
def layers : ConfigurationFault → List String
  | .noSchemaSource =>
    ["one of " ++ directoryVariable ++ " or " ++ addressVariable ++ " must be set"]
  | .invalidSchemaUrl raw fault =>
    ["invalid URL in " ++ addressVariable ++ ": " ++ raw, fault.message]
  | .schemaClient fault => ["cannot build upload-config HTTP client", fault.message]
  | .status fault => [fault.message]
  | .requiredStatus fault => ["status API configuration", fault.message]

def message (fault : ConfigurationFault) : String := fault.layers.headD ""

def chain (fault : ConfigurationFault) : String := String.intercalate ": " fault.layers

end ConfigurationFault

/-! ## Documents -/

/-- Where documents are kept. -/
inductive SchemaSource where
  | directory (root : String)
  | web (base : Url)
  deriving DecidableEq, Repr

/-- What lies outside: what is below each directory, and the document
server. -/
structure Surroundings where
  directory : String → Schema.FileTree
  documents : Http.Script

namespace SchemaSource

/-- A variable that is set to more than blanks. -/
def setText? (env : Environment) (name : String) : Option String :=
  (env.text? name).filter (!Text.isAllBlank ·)

def ofEnvironment (env : Environment) : Except ConfigurationFault SchemaSource :=
  match setText? env directoryVariable with
  | some root => .ok (.directory root)
  | none =>
    match setText? env addressVariable with
    | none => .error .noSchemaSource
    | some raw =>
      match Url.parse (Text.trimText raw) with
      | .ok base => .ok (.web base)
      | .error fault => .error (.invalidSchemaUrl raw fault)

/-- A web address has to be one that documents can be below. -/
def usable (source : SchemaSource) : Except ConfigurationFault Unit :=
  match source with
  | .directory _ => .ok ()
  | .web base =>
    if base.canBeBase then .ok () else .error (.schemaClient (.invalidBaseUrl base.text))

def store (surroundings : Surroundings) : SchemaSource → Schema.Store
  | .directory root => Schema.directoryStore ⟨root, [], surroundings.directory root⟩
  | .web base => Schema.webStore base surroundings.documents

end SchemaSource

/-- The store that the environment asks for. -/
def schemaStore (surroundings : Surroundings) (env : Environment) :
    Except ConfigurationFault Schema.Store := do
  let source ← SchemaSource.ofEnvironment env
  source.usable
  return source.store surroundings

/-! ## The status service -/

def clientOf (settings : Status.Settings) : Status.Client := ⟨settings.base, settings.policy⟩

/-- A client if a service is configured; that none is gets logged. -/
def optionalClient (env : Environment) :
    Session (Except ConfigurationFault (Option Status.Client)) :=
  match Status.Settings.ofEnvironment env with
  | .ok settings => pure (.ok (some (clientOf settings)))
  | .error .missingUrl => do
    Session.log .statusUrlMissing
    return .ok none
  | .error fault => pure (.error (.status fault))

def requiredClient (env : Environment) : Except ConfigurationFault Status.Client :=
  match Status.Settings.ofEnvironment env with
  | .ok settings => .ok (clientOf settings)
  | .error fault => .error (.requiredStatus fault)

end Hook

end UploadHooks
