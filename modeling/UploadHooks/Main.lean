import UploadHooks.CommandLine

/-!
# The program

What the command line needs from outside: its arguments, the variables it
looks at, the document it asks for and a random id. The library computes
the run, and its actions are then carried out in their order.

Which document is asked for does not depend on what any directory holds,
so a first run over empty directories finds it out. No transport is
attached: a service is never reached.

An upload that has no id yet is reported under a random UUID: sixteen
bytes, of which the seventh starts with the digit 4 and the ninth with the
bits 10, written as hexadecimal digits in groups of 8, 4, 4, 4 and 12.
-/

namespace UploadHooks

/-! ## Random ids -/

namespace Uuid

def hexDigits (byte : UInt8) : List Char :=
  [Nat.digitChar (byte.toNat / 16), Nat.digitChar (byte.toNat % 16)]

/-- Marks the byte at `index` if it carries the version or the variant. -/
def mark (index : Nat) (byte : UInt8) : UInt8 :=
  if index = 6 then 0x40 ||| (byte &&& 0x0f)
  else if index = 8 then 0x80 ||| (byte &&& 0x3f)
  else byte

/-- The bytes before which a dash stands. -/
def groupStarts : List Nat := [4, 6, 8, 10]

/-- The id that sixteen random bytes make. -/
def ofRandom (bytes : List UInt8) : String :=
  String.ofList <| ((bytes.mapIdx mark).zipIdx).flatMap fun b =>
    (if groupStarts.contains b.2 then ['-'] else []) ++ hexDigits b.1

end Uuid

/-! ## What lies outside -/

/-- What is found at a path. -/
def entryAt? (path : String) : IO (Option Schema.Entry) := do
  try
    let content ← IO.FS.readBinFile path
    return some (.file content.toList)
  catch
    | .noFileOrDirectory .. => return none
    | .inappropriateType .. => return some .folder
    | error => return some (.unreadable (toString error))

/-- The entries on the way to the document of a key. -/
def entriesFor (root : String) (key : Schema.Key) : IO (List (List String × Schema.Entry)) := do
  let folderPath := Schema.joinPath root key.folder
  let folder ← entryAt? folderPath
  let file ← entryAt? (Schema.joinPath folderPath key.file)
  return (folder.map ([key.folder], ·)).toList ++ (file.map ([key.folder, key.file], ·)).toList

def environmentOf (names : List String) : IO Environment := do
  let values ← names.mapM fun name => return (name, ← IO.getEnv name)
  return values.filterMap fun v => v.2.map fun text => (v.1, Utf8.encode text)

/-- The directories that a run asks for, read from outside. -/
def directoriesFor (env : Environment) (keys : List Schema.Key) :
    IO (String → Schema.FileTree) := do
  match Hook.SchemaSource.ofEnvironment env with
  | .ok (.directory root) =>
    let entries := (← keys.mapM (entriesFor root)).flatten
    return fun _ names => entries.lookup names
  | _ => return fun _ _ => none

/-! ## Running a hook -/

/-- A delay in milliseconds, cut to the longest one that can be waited at once. -/
def milliseconds (delay : Duration) : UInt32 :=
  UInt32.ofNat (min (delay.nanos / 1000000) (UInt32.size - 1))

/-- Carries out an action, as far as it shows. -/
def perform : Action → IO Unit
  | .waited delay => IO.sleep (milliseconds delay)
  | .logged event => do (← IO.getStderr).putStrLn event.line
  | _ => return ()

/-- Runs the hook that the arguments ask for, and answers the exit code. -/
def program (arguments : List String) : IO UInt32 := do
  let env ← environmentOf Hook.variableNames
  let freshId := Uuid.ofRandom (← IO.getRandomBytes 16).toList
  let runWith := fun directory =>
    (CommandLine.run arguments ⟨directory, []⟩ env freshId).run []
  let keys := (runWith fun _ _ => none).fetches.map (·.1)
  let run := runWith (← directoriesFor env keys)
  run.actions.forM perform
  (← IO.getStdout).putStr run.value.output
  return UInt32.ofNat run.value.exit.code

end UploadHooks

def main (arguments : List String) : IO UInt32 := UploadHooks.program arguments
