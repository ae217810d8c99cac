import UploadHooks.Version

/-!
# Upload configurations

What metadata has to look like is laid down per use case. A definition is
a list of rules, each about one field, and may carry a version; a
configuration is a single definition or, in the older form, several
versions of one.
-/

namespace UploadHooks

namespace Schema

structure FieldRule where
  field : String
  required : Bool
  allowedValues : Option (List String)
  description : String
  deriving DecidableEq, Repr

/-- The values a field is restricted to. An empty list restricts
nothing. -/
def FieldRule.allowed? (rule : FieldRule) : Option (List String) :=
  rule.allowedValues.filter (!·.isEmpty)

structure Definition where
  version : Option String
  rules : List FieldRule
  deriving DecidableEq, Repr

/-- The version that the definition's text denotes, if it denotes one. -/
def Definition.parsedVersion? (d : Definition) : Option Version :=
  d.version.bind fun text => (Version.parse text).toOption

inductive Config where
  | single (definition : Definition)
  | versioned (definitions : List Definition)
  deriving DecidableEq, Repr

def Config.definitions : Config → List Definition
  | .single d => [d]
  | .versioned ds => ds

end Schema

end UploadHooks
