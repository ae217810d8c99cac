import UploadHooks.Http
import UploadHooks.Schema.Directory
import UploadHooks.Schema.Document
import UploadHooks.Schema.Selection
import UploadHooks.Upload
import UploadHooks.Url.Extend

/-!
# Document stores

The configuration of a use case is kept under a key of two segments: a
folder for the major version of the metadata, and a file named after the
use case and its category.

A store has one document per key and is asked for it once. Two kinds of
store exist: a directory with the two segments of the key as folder and
file, and a web address with the two segments added to its path. Whatever
goes wrong, the error says which key was asked for and why there is no
configuration.

Ids come from clients. In a directory a file name with a slash of either
kind is therefore never looked up; on the web a segment stays one segment
because it is encoded.
-/

namespace UploadHooks

namespace Schema

/-! ## Keys -/

structure Key where
  useCase : String
  useCaseCategory : String
  major : Nat
  deriving DecidableEq, Repr

namespace Key

def forUpload (upload : ResolvedUpload) : Key :=
  ⟨upload.useCase, upload.useCaseCategory, upload.version.major⟩

def folder (key : Key) : String := "v" ++ Nat.repr key.major

def file (key : Key) : String := key.useCase ++ "-" ++ key.useCaseCategory ++ ".json"

def segments (key : Key) : List String := [key.folder, key.file]

def path (key : Key) : String := key.folder ++ "/" ++ key.file

end Key

/-! ## Errors -/

/-- Why there is no configuration under a key. -/
inductive Cause where
  | absent
  | unparsable (fault : DocumentFault)
  | unreadable (fault : ReadFault)
  | requestFailed (fault : Http.TransportFault)
  | status (code : Nat)
  | selection (fault : SelectionFault)
  deriving Repr

def SelectionFault.message : SelectionFault → String
  | .versionUnavailable requested available =>
    "requested schema version " ++ requested ++
      " not available. Available schema versions: " ++ Text.quotedList available
  | .noDefinitions => "document defines no schema versions"

def Cause.message : Cause → String
  | .absent => "no document stored at this key"
  | .unparsable fault => "document is not a valid upload config: " ++ fault.message
  | .unreadable fault => "read failed: " ++ fault.message
  | .requestFailed fault => "request failed: " ++ fault.message
  | .status code => "store returned HTTP " ++ Nat.repr code
  | .selection fault => fault.message

inductive StoreFault where
  | notFound (key : String) (cause : Cause)
  | invalidBaseUrl (url : String)
  deriving Repr

def StoreFault.message : StoreFault → String
  | .notFound key cause => "upload config '" ++ key ++ "' not found: " ++ cause.message
  | .invalidBaseUrl url => "invalid upload config base URL '" ++ url ++ "'"

/-! ## Stores -/

/-- What a store answers, and the requests it took. -/
structure Retrieval where
  result : Except StoreFault Config
  attempts : List Http.Attempt

abbrev Store := Key → Retrieval

/-- A configuration from the bytes of a document. -/
def decodeAt (key : Key) (bytes : List UInt8) : Except StoreFault Config :=
  (Config.ofBytes bytes).mapError fun fault => .notFound key.path (.unparsable fault)

/-! ## Directories -/

/-- Whether a file name would leave its folder. -/
def leavesFolder (file : String) : Bool := file.toList.any fun c => c == '/' || c == '\\'

def fetchFile (d : Directory) (key : Key) : Except StoreFault Config :=
  if leavesFolder key.file then .error (.notFound key.path .absent)
  else
    match readFile d key.folder key.file with
    | .ok content => decodeAt key content
    | .error .absent => .error (.notFound key.path .absent)
    | .error fault => .error (.notFound key.path (.unreadable fault))

def directoryStore (d : Directory) : Store := fun key => ⟨fetchFile d key, []⟩

/-! ## The web -/

/-- What the outcome of the one request says about the document. -/
def ofOutcome (key : Key) (request : Http.Request) : Http.Outcome → Except StoreFault Config
  | .responded response =>
    if response.status = 404 then .error (.notFound key.path .absent)
    else if response.isSuccess then
      match response.body with
      | .complete bytes => decodeAt key bytes
      | .brokenOff => .error (.notFound key.path (.requestFailed .decodingBody))
    else .error (.notFound key.path (.status response.status))
  | .unsendable => .error (.notFound key.path (.requestFailed (.building request.shownUrl)))
  | _ => .error (.notFound key.path (.requestFailed (.sending request.shownUrl)))

/-- The URL of a document below the base. -/
def documentUrl? (base : Url) (key : Key) : Option Url := base.extendPath key.segments

def webStore (base : Url) (script : Http.Script) : Store := fun key =>
  match documentUrl? base key with
  | none => ⟨.error (.invalidBaseUrl base.text), []⟩
  | some url =>
    let request : Http.Request := ⟨.get, url, none⟩
    let outcome := (script.answer request).1
    ⟨ofOutcome key request outcome, [⟨request, outcome⟩]⟩

end Schema

end UploadHooks
