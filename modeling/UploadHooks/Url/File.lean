import UploadHooks.Url.Authority

/-!
# File URLs

A file URL has a host only behind two slashes of either kind, and a path
that may begin with a drive: `C:`, or `C|`, which is written `C:`. A drive
at the front takes the place of the host. Only the first segment can be
such a drive, and behind an empty segment it is like any other.

`FilePath` is a path that is being read. A tab or line break right behind
the colon of a drive ends the segment as a slash would, and what stands
behind it is a name even if it is `.` or `..`.
-/

namespace UploadHooks

namespace Url

/-! ## Drives -/

/-- Whether a segment is a drive and nothing more. -/
def isDrive (segment : String) : Bool := segment.length == 2 && startsWithDrive segment

def driveText (letter : Char) : String := String.ofList [letter, ':']

/-- The drive and the name of a piece that is broken behind its drive. -/
def brokenDrive? (piece : List Char) : Option (String × String) :=
  match piece.dropWhile isBreak with
  | letter :: rest =>
    match rest.dropWhile isBreak with
    | ':' :: next :: rest =>
      if letter.isAlpha && isBreak next && !(dropBreaks rest).isEmpty then
        some (driveText letter, writtenPiece rest)
      else none
    | _ => none
  | [] => none

/-! ## Paths -/

/-- The segments so far, and whether the host is still there. -/
structure FilePath where
  names : List String
  hasHost : Bool
  deriving DecidableEq, Repr

/-- A segment at the front of the path. -/
def FilePath.atFront (p : FilePath) (segment : String) : FilePath × String :=
  match segment.toList with
  | [letter, _] =>
    if isDrive segment then (⟨p.names, false⟩, driveText letter) else (p, segment)
  | _ => (p, segment)

/-- Adds the pieces of a path. -/
def FilePath.read (p : FilePath) : List (List Char) → FilePath
  | [] => p
  | piece :: rest =>
    match if p.names.isEmpty then brokenDrive? piece else none with
    | some (drive, name) => FilePath.read ⟨[drive, name], p.hasHost⟩ rest
    | none =>
      let (p, segment) :=
        if p.names.isEmpty then p.atFront (writtenPiece piece) else (p, writtenPiece piece)
      if rest.isEmpty then { p with names := endPath p.names segment }
      else FilePath.read { p with names := stepPath p.names segment } rest

/-- Leading empty segments are dropped. -/
def dropLeadingEmpty : List String → List String
  | "" :: next :: rest => dropLeadingEmpty (next :: rest)
  | names => names

/-! ## The whole -/

/-- The text behind a slash, if there is one. -/
def behindSlash? (text : List Char) : Option (List Char) :=
  match text.dropWhile isBreak with
  | c :: rest => if isSlash true c then some rest else none
  | [] => none

/-- The local host is not written. -/
def readFileHost (text : List Char) : Except Fault String :=
  if text.isEmpty then .ok ""
  else (Host.readSpecial text).map fun host => if host = "localhost" then "" else host

/-- The host behind two slashes, and the text of the path. A drive in the
place of the host belongs to the path. Without a host, a slash in front of
the path stays, and makes an empty segment. -/
def readFileFront (text : List Char) : Except Fault (String × List Char) := do
  let (front, rest) := text.span (!isAuthorityEnd true ·)
  let front := dropBreaks front
  if isDrive (String.ofList front) then return ("", text)
  let host ← readFileHost front
  return (host, if host = "" then rest else (behindSlash? rest).getD rest)

/-- A file URL from the text behind its scheme. -/
def readFile (text : List Char) : Except Fault Url := do
  let (host, rest) ←
    match behindSlash? text with
    | none => pure ("", text)
    | some rest =>
      match behindSlash? rest with
      | none => pure ("", rest)
      | some rest => readFileFront rest
  let (pathText, rest) := spanPath rest
  let path := FilePath.read ⟨[], true⟩ (pathText.splitOnP (isSlash true))
  let (query, fragment) := readQuery true (dropBreaks rest)
  return {
    scheme := "file"
    front := .authority ⟨"", "", if path.hasHost then host else "", none⟩
    path := .segments (dropLeadingEmpty path.names)
    query := query
    fragment := fragment }

end Url

end UploadHooks
