import UploadHooks.Url.Percent

/-!
# Paths and what follows them

A path is read as the pieces between its slashes, each in its written,
percent-encoded form. `.` and `..` are resolved, escaped or not: `stepPath`
takes one segment at a time, and `endPath` says what the last one leaves
behind. Tabs and line breaks count for nothing.

A segment such as `C:` may be the drive of a file path, and `..` never
leaves a drive, whatever the scheme.

Behind the path a question mark begins the query and a number sign the
fragment. Both are kept in their written form; the query of a special URL
has an apostrophe encoded too.
-/

namespace UploadHooks

namespace Url

/-! ## Characters -/

/-- Tabs and line breaks. -/
def isBreak (c : Char) : Bool := c == '\t' || c == '\n' || c == '\r'

def dropBreaks (text : List Char) : List Char := text.filter (!isBreak ·)

def isSlash (special : Bool) (c : Char) : Bool := c == '/' || (special && c == '\\')

/-! ## Dot segments and drives -/

def isDot (segment : String) : Bool := [".", "%2e", "%2E"].contains segment

def isDoubleDot (segment : String) : Bool :=
  ["..", "%2e%2e", "%2e%2E", "%2E%2e", "%2E%2E", "%2e.", "%2E.", ".%2e", ".%2E"].contains segment

/-- Whether a segment starts like a drive: a letter, a colon or bar, and
nothing or a delimiter behind them. -/
def startsWithDrive (segment : String) : Bool :=
  match segment.toList with
  | letter :: mark :: rest =>
    letter.isAlpha && (mark == ':' || mark == '|') &&
      rest.head?.all ['/', '\\', '?', '#'].contains
  | _ => false

/-- The path above; above a drive there is nothing. -/
def parentPath (done : List String) : List String :=
  if done.getLast?.any startsWithDrive then done else done.dropLast

/-- A segment with another one behind it. -/
def stepPath (done : List String) (segment : String) : List String :=
  if isDoubleDot segment then parentPath done
  else if isDot segment then done
  else done ++ [segment]

/-- The last segment. A dot segment leaves an empty one in its place. -/
def endPath (done : List String) (segment : String) : List String :=
  if isDoubleDot segment then parentPath done ++ [""]
  else if isDot segment then done ++ [""]
  else done ++ [segment]

/-- Appends segments in their written form to a path. -/
def readPath (done : List String) : List String → List String
  | [] => done
  | [last] => endPath done last
  | segment :: rest => readPath (stepPath done segment) rest

/-- A piece of a path in its written form. -/
def writtenPiece (piece : List Char) : String :=
  String.ofList (Percent.encode Percent.path (dropBreaks piece))

/-- The pieces of a path between its slashes. -/
def pathPieces (special : Bool) (text : List Char) : List String :=
  (text.splitOnP (isSlash special)).map writtenPiece

/-! ## Query and fragment -/

def isQueryStart (c : Char) : Bool := c == '?' || c == '#'

/-- Text up to a query or fragment, and the rest. -/
def spanPath (text : List Char) : List Char × List Char := text.span (!isQueryStart ·)

/-- Query and fragment from the text behind the path. -/
def readQuery (special : Bool) : List Char → Option String × Option String
  | '?' :: text =>
    let (query, rest) := text.span (· != '#')
    let inSet := if special then Percent.specialQuery else Percent.query
    (some (String.ofList (Percent.encode inSet query)),
      (rest.drop 1 |> Percent.encode Percent.fragment |> String.ofList |> fun f =>
        if rest.isEmpty then none else some f))
  | '#' :: text => (none, some (String.ofList (Percent.encode Percent.fragment text)))
  | _ => (none, none)

end Url

end UploadHooks
