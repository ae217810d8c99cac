import UploadHooks.Url.Basic
import UploadHooks.Url.Form
import UploadHooks.Url.Path

/-!
# Building on a base URL

A service has a base URL, and each of its operations adds path segments
and query parameters. A segment is added as a whole: slashes, percent
signs and the like in it are encoded, so it stays one segment. Three
things about segments are less obvious:

- tabs and line breaks in a segment are dropped;
- a segment that is `.` or `..` is left out;
- one that only becomes so by the dropping is resolved like a dot segment
  of a path.

An empty segment at the end of the base path, which is its trailing slash,
is dropped before anything is added.
-/

namespace UploadHooks

namespace Url

/-- A segment in its written form. -/
def encodeSegment (special : Bool) (segment : String) : String :=
  String.ofList <|
    Percent.encode (if special then Percent.specialSegment else Percent.segment)
      (dropBreaks segment.toList)

/-- The one segment of a path that is just a slash gives way to the next. -/
def dropSoleEmpty : List String → List String
  | [""] => []
  | names => names

def appendSegment (special : Bool) (names : List String) (segment : String) : List String :=
  if segment = "." ∨ segment = ".." then names
  else endPath (dropSoleEmpty names) (encodeSegment special segment)

/-- Drops an empty last segment. A path that is just a slash keeps it. -/
def dropTrailingEmpty (names : List String) : List String :=
  if 1 < names.length ∧ names.getLast? = some "" then names.dropLast else names

/-- The path of a base with segments added; nothing if it has none. -/
def extendPath (u : Url) (segments : List String) : Option Url :=
  match u.path with
  | .bare _ => none
  | .segments names =>
    let names := segments.foldl (appendSegment u.isSpecial) (dropTrailingEmpty names)
    some { u with path := .segments names }

/-- Parameters behind those the URL has already. -/
def addParameters (u : Url) (pairs : List (String × String)) : Url :=
  if pairs.isEmpty then u
  else { u with query := some (String.ofList (Form.append (u.query.getD "").toList pairs)) }

/-- The URL of an operation below a base. -/
def extend (u : Url) (segments : List String) (pairs : List (String × String)) : Option Url :=
  (u.extendPath segments).map (·.addParameters pairs)

end Url

end UploadHooks
