/-!
# Validation issues

An issue is one way in which metadata breaks its schema. Its text is what
the sender of the upload gets to read.
-/

namespace UploadHooks

inductive Issue where
  | missingRequired (field description : String)
  | notAllowed (field value : String) (allowed : List String)
  | noFilename (candidates : List String)
  | invalidFilename (filename : String) (characters : List Char)
  deriving DecidableEq, Repr

namespace Issue

/-- The metadata field that the issue is about, if it is about one. -/
def field? : Issue → Option String
  | .missingRequired field _ => some field
  | .notAllowed field _ _ => some field
  | .noFilename _ => none
  | .invalidFilename _ _ => none

def commaSeparated (parts : List String) : String := String.intercalate ", " parts

def text : Issue → String
  | .missingRequired field description =>
    "Missing required metadata '" ++ field ++ "', description = '" ++ description ++ "'"
  | .notAllowed field value allowed =>
    field ++ " = " ++ value ++ " is not one of the allowed values: [" ++
      commaSeparated (allowed.map fun a => "\"" ++ a ++ "\"") ++ "]"
  | .noFilename candidates =>
    "No filename provided; expected one of: " ++ commaSeparated candidates
  | .invalidFilename filename characters =>
    "Filename '" ++ filename ++ "' contains invalid characters: " ++
      commaSeparated (characters.map fun c => "'" ++ String.singleton c ++ "'")

end Issue

end UploadHooks
