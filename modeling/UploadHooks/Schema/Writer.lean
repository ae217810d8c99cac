import UploadHooks.Json.Writer
import UploadHooks.Schema.Document

/-!
# Writing configuration documents

A record is written with all its members, in the order in which they are
declared and under their present names. What is absent is written as null,
so a rule without an allow-list differs from one whose list is empty.
-/

namespace UploadHooks

namespace Schema

open Json (stringChars textOrNullChars boolChars listChars objectChars)

def allowedChars : Option (List String) → List Char
  | none => "null".toList
  | some values => listChars (values.map stringChars)

def FieldRule.chars (rule : FieldRule) : List Char :=
  objectChars [
    ("field_name", stringChars rule.field),
    ("required", boolChars rule.required),
    ("allowed_values", allowedChars rule.allowedValues),
    ("description", stringChars rule.description)]

def Definition.chars (d : Definition) : List Char :=
  objectChars [
    ("version", textOrNullChars d.version),
    ("fields", listChars (d.rules.map FieldRule.chars))]

/-- A configuration in its shape, with so many spaces in front of each
definition. -/
def Config.chars (spaces : Nat) : Config → List Char
  | .single d => objectChars [(configMember, List.replicate spaces ' ' ++ d.chars)]
  | .versioned ds => listChars (ds.map fun d => List.replicate spaces ' ' ++ d.chars)

def Config.text (spaces : Nat) (c : Config) : String := String.ofList (c.chars spaces)

end Schema

end UploadHooks
