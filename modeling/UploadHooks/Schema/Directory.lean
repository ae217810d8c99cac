/-!
# Reading a file in a directory

Files lie on a disk, each at a place, which is the list of the names on the
way to it from the top. A path says how to get to one from some other
place: its pieces are taken one after another, a name leads down, two dots
lead up, and a path that begins with a slash starts at the top.

All that is passed on the way has to be a folder. A path that is too long
as a whole is not followed at all, and neither is one with a NUL in it.
Links are left out: an entry has one place.
-/

namespace UploadHooks

namespace Schema

/-! ## Disks -/

inductive Entry where
  | file (content : List UInt8)
  | folder
  | unreadable (reason : String)
  deriving DecidableEq, Repr

/-- The entries of a disk by their places. -/
abbrev FileTree := List String → Option Entry

/-- A directory has a path that it is named by, and a place on a disk that
this path leads to. -/
structure Directory where
  path : String
  place : List String
  disk : FileTree

/-- A disk of its own is a directory, the one at its top. -/
instance : Coe FileTree Directory := ⟨fun disk => ⟨"", [], disk⟩⟩

/-- The entry below a directory, by the names on the way to it. -/
def Directory.entry? (d : Directory) (names : List String) : Option Entry :=
  d.disk (d.place ++ names)

/-! ## Paths -/

/-- The pieces of a path between its separators. -/
def pathPieces (isSeparator : Char → Bool) (path : String) : List String :=
  (path.toList.splitOnP isSeparator).map String.ofList

def stepAlong (place : List String) (piece : String) : List String :=
  if piece = "" ∨ piece = "." then place
  else if piece = ".." then place.dropLast
  else place ++ [piece]

/-- The place that a path starts at. An absolute one starts at the top. -/
def startOf (isSeparator : Char → Bool) (place : List String) (path : String) : List String :=
  if path.toList.head?.any isSeparator then [] else place

/-- Where a path leads from a place. -/
def walk (isSeparator : Char → Bool) (place : List String) (path : String) : List String :=
  (pathPieces isSeparator path).foldl stepAlong (startOf isSeparator place path)

/-- What separates the pieces of a path on this system. -/
def separates (c : Char) : Bool := c == '/'

/-- The path to what another path leads to from the end of this one. -/
def joinPath (path more : String) : String :=
  if more.toList.head?.any separates then more
  else if path = "" ∨ path.toList.getLast?.any separates then path ++ more
  else path ++ "/" ++ more

/-! ## Reading -/

/-- Why a file cannot be read. -/
inductive ReadFault where
  | absent
  | isDirectory
  | notADirectory
  | nameTooLong
  | nulInName
  | other (description : String)
  deriving DecidableEq, Repr

def ReadFault.message : ReadFault → String
  | .absent => "No such file or directory (os error 2)"
  | .isDirectory => "Is a directory (os error 21)"
  | .notADirectory => "Not a directory (os error 20)"
  | .nameTooLong => "File name too long (os error 36)"
  | .nulInName => "file name contained an unexpected NUL byte"
  | .other description => description

/-- The longest name a folder can hold, in bytes. -/
def longestName : Nat := 255

/-- The longest path that is followed at all, in bytes. -/
def longestPath : Nat := 4095

/-- Goes on from a place along the pieces that are left, and reads what is
at the end. -/
def readAlong (disk : FileTree) (place : List String) : List String → Except ReadFault (List UInt8)
  | [] =>
    match disk place with
    | none => .error .absent
    | some (.file content) => .ok content
    | some .folder => .error .isDirectory
    | some (.unreadable reason) => .error (.other reason)
  | piece :: pieces =>
    match disk place with
    | none => .error .absent
    | some (.file _) => .error .notADirectory
    | some (.unreadable reason) => .error (.other reason)
    | some .folder =>
      if longestName < piece.utf8ByteSize then .error .nameTooLong
      else readAlong disk (stepAlong place piece) pieces

/-- Reads a file in a folder of a directory. The directory itself has been
found already. -/
def readFile (d : Directory) (folder file : String) : Except ReadFault (List UInt8) :=
  let path := joinPath (joinPath d.path folder) file
  if path.toList.contains '\x00' then .error .nulInName
  else if longestPath < path.utf8ByteSize then .error .nameTooLong
  else
    readAlong d.disk (startOf separates (walk separates d.place folder) file)
      (pathPieces separates file)

end Schema

end UploadHooks
