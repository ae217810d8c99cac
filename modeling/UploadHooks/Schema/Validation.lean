import UploadHooks.Filename
import UploadHooks.Schema.Config

/-!
# Checking metadata against a definition

Every rule is checked, and the issues come in the order of the rules. A
rule is broken when its field is required and absent, or when the field
has a value that a non-empty list of allowed values does not contain.
-/

namespace UploadHooks

namespace Schema

/-- The issue that a rule raises for the value of its field, if any. -/
def FieldRule.issue? (rule : FieldRule) : Option String → Option Issue
  | none => if rule.required then some (.missingRequired rule.field rule.description) else none
  | some value =>
    match rule.allowed? with
    | some allowed =>
      if allowed.contains value then none else some (.notAllowed rule.field value allowed)
    | none => none

def validateRules (m : Metadata) (rules : List FieldRule) : List Issue :=
  rules.filterMap fun rule => rule.issue? (m.get? rule.field)

def validate (m : Metadata) (definition : Definition) : List Issue :=
  validateRules m definition.rules

/-- Whether an issue already says that a filename field is missing. -/
def flagsMissingFilename (issues : List Issue) : Bool :=
  issues.any fun issue =>
    match issue with
    | .missingRequired field _ => Filename.fields.contains field
    | _ => false

/-- The issue with the filename itself, unless the rules have said that it
is missing. -/
def filenameIssue? (m : Metadata) (issues : List Issue) : Option Issue :=
  match Filename.fault? m with
  | none => none
  | some .absent => if flagsMissingFilename issues then none else some Filename.Fault.absent.issue
  | some fault => some fault.issue

/-- All issues: those of the rules, then that of the filename. -/
def allIssues (m : Metadata) (definition : Definition) : List Issue :=
  let issues := validate m definition
  issues ++ (filenameIssue? m issues).toList

end Schema

end UploadHooks
