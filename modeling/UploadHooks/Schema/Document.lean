import UploadHooks.Json.Reader
import UploadHooks.Json.Shape
import UploadHooks.Schema.Config
import UploadHooks.Text.Blank

/-!
# Configuration documents

A document is JSON in one of two shapes: an object whose member
`metadata_config` is the definition, or an array of definitions. Members
that are not known are ignored. Older documents write `fieldname`,
`schema_version` and `required` as a text.

Each record is read member by member into a draft of optional fields, so
that a field given twice under its two names is noticed, and the draft is
completed with the defaults at the end.
-/

namespace UploadHooks

namespace Schema

open Json (Value Decoded Mismatch)

/-! ## Rules -/

/-- A flag as a text, trimmed and in any letter case. -/
def flagOfText (s : String) : Decoded Bool :=
  match Text.lowerAscii (Text.trimText s) with
  | "true" => .ok true
  | "false" => .ok false
  | other => .error (.notAFlag other)

def readFlag : Value → Decoded Bool
  | .null => .ok false
  | .bool b => .ok b
  | .string s => flagOfText s
  | _ => .error (.noVariant "Flag")

def readAllowed : Value → Decoded (Option (List String)) :=
  Value.asOption (Value.asList Value.asText)

def readDescription (v : Value) : Decoded String := (Value.asOption Value.asText v).map (·.getD "")

structure RuleDraft where
  field : Option String
  required : Option Bool
  allowedValues : Option (Option (List String))
  description : Option String

namespace RuleDraft

def blank : RuleDraft := ⟨none, none, none, none⟩

def readMember (draft : RuleDraft) (member : String × Value) : Decoded RuleDraft :=
  let (name, v) := member
  if name = "field_name" ∨ name = "fieldname" then
    (Json.setOnce "field_name" draft.field v.asText).map fun x => { draft with field := x }
  else if name = "required" then
    (Json.setOnce "required" draft.required (readFlag v)).map fun x => { draft with required := x }
  else if name = "allowed_values" then
    (Json.setOnce "allowed_values" draft.allowedValues (readAllowed v)).map fun x =>
      { draft with allowedValues := x }
  else if name = "description" then
    (Json.setOnce "description" draft.description (readDescription v)).map fun x =>
      { draft with description := x }
  else .ok draft

def complete (draft : RuleDraft) : Decoded FieldRule :=
  (Json.required "field_name" draft.field).map fun field =>
    ⟨field, draft.required.getD false, draft.allowedValues.getD none, draft.description.getD ""⟩

end RuleDraft

def readRuleElements (items : List Value) : Decoded FieldRule := do
  let (field, rest) ← Json.element Value.asText "struct FieldRule with 4 elements" 0 items
  let (required, rest) ← Json.elementOr readFlag false rest
  let (allowedValues, rest) ← Json.elementOr readAllowed none rest
  let (description, rest) ← Json.elementOr readDescription "" rest
  Json.noMore items.length rest
  return ⟨field, required, allowedValues, description⟩

def readRule : Value → Decoded FieldRule
  | .object members => (members.foldlM RuleDraft.readMember RuleDraft.blank).bind (·.complete)
  | .array items => readRuleElements items
  | v => .error (.wrongType v "struct FieldRule")

/-! ## Definitions -/

def readRules : Value → Decoded (List FieldRule) := Value.asList readRule

def readVersion : Value → Decoded (Option String) := Value.asOption Value.asText

structure DefinitionDraft where
  version : Option (Option String)
  rules : Option (List FieldRule)

namespace DefinitionDraft

def blank : DefinitionDraft := ⟨none, none⟩

def readMember (draft : DefinitionDraft) (member : String × Value) : Decoded DefinitionDraft :=
  let (name, v) := member
  if name = "version" ∨ name = "schema_version" then
    (Json.setOnce "version" draft.version (readVersion v)).map fun x =>
      { draft with version := x }
  else if name = "fields" then
    (Json.setOnce "fields" draft.rules (readRules v)).map fun x => { draft with rules := x }
  else .ok draft

def complete (draft : DefinitionDraft) : Definition :=
  ⟨draft.version.getD none, draft.rules.getD []⟩

end DefinitionDraft

def readDefinitionElements (items : List Value) : Decoded Definition := do
  let (version, rest) ← Json.elementOr readVersion none items
  let (rules, rest) ← Json.elementOr readRules [] rest
  Json.noMore items.length rest
  return ⟨version, rules⟩

def readDefinition : Value → Decoded Definition
  | .object members =>
    (members.foldlM DefinitionDraft.readMember DefinitionDraft.blank).map (·.complete)
  | .array items => readDefinitionElements items
  | v => .error (.wrongType v "struct MetadataDefinition")

/-! ## Documents -/

/-- Why a document is not a configuration. -/
inductive DocumentFault where
  | malformed (error : Json.SyntaxError)
  | mismatch (error : Mismatch)
  deriving Repr

def DocumentFault.message : DocumentFault → String
  | .malformed error => error.message
  | .mismatch error => error.message

/-- The member of a document that holds its definition. -/
def configMember : String := "metadata_config"

def readDocument : Value → Decoded Config
  | .array items => (items.mapM readDefinition).map .versioned
  | .object members =>
    match Entries.get? members configMember with
    | some v => (readDefinition v).map .single
    | none => .error (.missingField configMember)
  | v => .error (.wrongType v "struct CurrentShape")

/-- The configuration in a document. -/
def Config.ofBytes (bytes : List UInt8) : Except DocumentFault Config :=
  match Value.ofBytes bytes with
  | .error error => .error (.malformed error)
  | .ok v => (readDocument v).mapError .mismatch

end Schema

end UploadHooks
