/-!
# Help texts

A help text has a line about the command, its usage, and a table for each
group of things it takes. The first column of a table is as wide as its
widest entry.
-/

namespace UploadHooks

namespace CommandLine

/-- Entries with their descriptions, two blanks apart. -/
def table (rows : List (String × String)) : String :=
  let width := (rows.map fun r => r.1.length).foldl max 0
  String.join <| rows.map fun r =>
    "  " ++ r.1 ++ "".pushn ' ' (width - r.1.length) ++ "  " ++ r.2 ++ "\n"

def group (title : String) (rows : List (String × String)) : String :=
  "\n" ++ title ++ ":\n" ++ table rows

def usage (rest : String) : String := "\nUsage: dexhook " ++ rest ++ "\n"

def verboseRow : String × String :=
  ("-v, --verbose...",
    "Enable verbose output. Repeat for more verbosity (-v, -vv, -vvv)")

def jsonRow : String × String := ("    --log-json", "Emit logs as JSON lines")

def helpRow : String × String := ("-h, --help", "Print help")

def versionRow : String × String := ("-V, --version", "Print version")

def metadataRow : String × String :=
  ("-m, --metadata <METADATA>", "Upload metadata as a JSON object")

def assignedIdRow : String × String :=
  ("-i, --id <ID>", "Upload id assigned by the upload server")

def reportIdRow : String × String :=
  ("-i, --id <ID>",
    "Id to report a rejection under. A random UUID is used when absent")

def preCreateAbout : String := "Verify upload metadata before the upload is created"

def postCreateAbout : String := "Open the upload's status trace and start its dex-upload span"

def postFinishAbout : String := "Stop the upload's dex-upload span"

def helpAbout : String := "Print this message or the help of the given subcommand(s)"

def mainHelp : String :=
  "The dexhook binary: pre-create metadata verification and post-create/post-finish status " ++
    "tracing hooks for a tus upload server.\n" ++ usage "[OPTIONS] <COMMAND>" ++
    group "Commands"
      [("pre-create", preCreateAbout), ("post-create", postCreateAbout),
        ("post-finish", postFinishAbout), ("help", helpAbout)] ++
    group "Options" [verboseRow, jsonRow, helpRow, versionRow]

def preCreateHelp : String :=
  preCreateAbout ++ "\n" ++ usage "pre-create [OPTIONS] --metadata <METADATA>" ++
    group "Options" [metadataRow, verboseRow, reportIdRow, jsonRow, helpRow]

def postCreateHelp : String :=
  postCreateAbout ++ "\n" ++ usage "post-create [OPTIONS] --id <ID> --metadata <METADATA>" ++
    group "Options" [assignedIdRow, verboseRow, jsonRow, metadataRow, helpRow]

def postFinishHelp : String :=
  postFinishAbout ++ "\n" ++ usage "post-finish [OPTIONS] --id <ID>" ++
    group "Options" [assignedIdRow, verboseRow, jsonRow, helpRow]

def helpHelp : String :=
  helpAbout ++ "\n" ++ usage "help [COMMAND]..." ++
    group "Arguments" [("[COMMAND]...", "Print help for the subcommand(s)")]

def versionLine : String := "dexhook 0.1.0\n"

end CommandLine

end UploadHooks
