import UploadHooks.Proofs.Json.Lists
import UploadHooks.Proofs.Schema.Document
import UploadHooks.Proofs.Text.Utf8
import UploadHooks.Schema.Writer

/-!
# Configurations read back

The writer and the readers of a configuration know nothing of each other:
the writer puts members one behind the other, the readers fill slots by
name. Two facts about each record tie them together. Its text denotes a
value (`denotes_chars`), which is the object of the members that the
writer lists; and that value means the record (`means_value`), in the
sense of the relations that the readers decide. `Config.ofBytes_eq_ok_iff`
puts the two together.

Values are kept apart as the record keeps them: no allow-list is null and
an empty one is an empty array, which are different values and mean
different things.
-/

namespace UploadHooks

namespace Schema

open Json (Value Member Denotes)
open Entries (get?)

/-! ## The values that are written -/

def allowedValue : Option (List String) → Value
  | none => .null
  | some values => .array (values.map .string)

namespace FieldRule

/-- The members of a written rule, each with what it denotes. -/
def members (rule : FieldRule) : List Member := [
  ⟨"field_name", Json.stringChars rule.field, .string rule.field⟩,
  ⟨"required", Json.boolChars rule.required, .bool rule.required⟩,
  ⟨"allowed_values", allowedChars rule.allowedValues, allowedValue rule.allowedValues⟩,
  ⟨"description", Json.stringChars rule.description, .string rule.description⟩]

def value (rule : FieldRule) : Value := .object (Entries.ofPairs (rule.members.map Member.entry))

theorem chars_eq (rule : FieldRule) :
    rule.chars = Json.objectChars (rule.members.map Member.written) := rfl

end FieldRule

def rulesValue (rules : List FieldRule) : Value := .array (rules.map FieldRule.value)

def versionValue (version : Option String) : Value := version.elim .null .string

namespace Definition

def members (d : Definition) : List Member := [
  ⟨"version", Json.textOrNullChars d.version, versionValue d.version⟩,
  ⟨"fields", Json.listChars (d.rules.map FieldRule.chars), rulesValue d.rules⟩]

def value (d : Definition) : Value := .object (Entries.ofPairs (d.members.map Member.entry))

theorem chars_eq (d : Definition) :
    d.chars = Json.objectChars (d.members.map Member.written) := rfl

end Definition

/-! ## Texts denote these values -/

theorem denotes_allowedChars (allowed : Option (List String)) :
    Denotes (allowedChars allowed) (allowedValue allowed) 1 := by
  cases allowed with
  | none => exact Denotes.null.mono (by decide)
  | some values => exact .listOf fun s _ => .string s

theorem FieldRule.denotes_chars (rule : FieldRule) : Denotes rule.chars rule.value 2 := by
  rw [chars_eq]
  refine .object ?_
  simp only [members, List.forall_mem_cons, List.not_mem_nil, false_implies, implies_true, and_true]
  exact ⟨(Denotes.string _).mono (by decide), (Denotes.bool _).mono (by decide),
    denotes_allowedChars _, (Denotes.string _).mono (by decide)⟩

theorem denotes_rules (rules : List FieldRule) :
    Denotes (Json.listChars (rules.map FieldRule.chars)) (rulesValue rules) 3 :=
  .listOf fun rule _ => rule.denotes_chars

theorem Definition.denotes_chars (d : Definition) : Denotes d.chars d.value 4 := by
  rw [chars_eq]
  refine .object ?_
  simp only [members, List.forall_mem_cons, List.not_mem_nil, false_implies, implies_true, and_true]
  exact ⟨(Denotes.textOrNull _).mono (by decide), denotes_rules _⟩

/-! ## The values mean the records -/

theorem allowedMeans_allowedValue (allowed : Option (List String)) :
    AllowedMeans (allowedValue allowed) allowed := by
  cases allowed with
  | none => exact .null
  | some values => exact .texts values

theorem versionMeans_versionValue (version : Option String) :
    VersionMeans (versionValue version) version := by
  cases version with
  | none => exact .null
  | some text => exact .text text

theorem FieldRule.means_value (rule : FieldRule) : RuleMeans rule.value rule := by
  have hget : ∀ name, get? (Entries.ofPairs (rule.members.map Member.entry)) name =
      if name = "description" then some (.string rule.description)
      else if name = "allowed_values" then some (allowedValue rule.allowedValues)
      else if name = "required" then some (.bool rule.required)
      else if name = "field_name" then some (.string rule.field)
      else none := by
    intro name
    simp [members, Member.entry, Entries.ofPairs, Entries.get?_insert]
  refine .object (.current ?_ ?_) ?_ ?_ ?_
  · rw [hget]
    rfl
  · rw [hget]
    rfl
  · rw [hget]
    exact .present (.bool rule.required)
  · rw [hget]
    exact .present (allowedMeans_allowedValue rule.allowedValues)
  · rw [hget]
    exact .present (.text rule.description)

theorem rulesMean_rulesValue (rules : List FieldRule) : RulesMean (rulesValue rules) rules := by
  refine .array (List.forall₂_map_left_iff.mpr ?_)
  exact List.forall₂_same.mpr fun rule _ => rule.means_value

theorem Definition.means_value (d : Definition) : DefinitionMeans d.value d := by
  have hget : ∀ name, get? (Entries.ofPairs (d.members.map Member.entry)) name =
      if name = "fields" then some (rulesValue d.rules)
      else if name = "version" then some (versionValue d.version)
      else none := by
    intro name
    simp [members, Member.entry, Entries.ofPairs, Entries.get?_insert]
  refine .object (.current ?_ ?_) (.present (versionMeans_versionValue d.version)) ?_
  · rw [hget]
    rfl
  · rw [hget]
    rfl
  · rw [hget]
    exact .present (rulesMean_rulesValue d.rules)

/-! ## Whole documents -/

/-- The value that a written configuration denotes. -/
def Config.value : Config → Value
  | .single d => .object (Entries.ofPairs [(configMember, d.value)])
  | .versioned ds => .array (ds.map Definition.value)

theorem Config.denotes_chars (spaces : Nat) (c : Config) :
    Denotes (c.chars spaces) c.value 5 := by
  have hdefinition : ∀ d : Definition,
      Denotes (List.replicate spaces ' ' ++ d.chars) d.value 4 := fun d =>
    d.denotes_chars.behindBlanks fun c hc => by rw [List.eq_of_mem_replicate hc]; rfl
  cases c with
  | single d =>
      let written : Member := ⟨configMember, List.replicate spaces ' ' ++ d.chars, d.value⟩
      have hmembers : ∀ w ∈ [written], Denotes w.text w.value 4 := by
        intro w hw
        rw [List.mem_singleton.mp hw]
        exact hdefinition d
      exact .object hmembers
  | versioned ds => exact .listOf fun d _ => hdefinition d

theorem Config.means_value (c : Config) : DocumentMeans c.value c := by
  cases c with
  | single d =>
      refine .single ?_ d.means_value
      simp [configMember, Entries.ofPairs, Entries.get?_insert]
  | versioned ds =>
      refine .versioned (List.forall₂_map_left_iff.mpr ?_)
      exact List.forall₂_same.mpr fun d _ => d.means_value

/-- The bytes of a written text are read as the text is. -/
theorem ofBytes_encode (s : String) : Value.ofBytes (Utf8.encode s) = Value.ofText s := by
  rw [Value.ofBytes, Value.ofText, Utf8.decode_encode]

theorem Config.ofBytes_text (spaces : Nat) (c : Config) :
    Config.ofBytes (Utf8.encode (c.text spaces)) = .ok c := by
  rw [ofBytes_eq_ok_iff]
  have hread := (c.denotes_chars spaces).ofText (by decide)
  exact ⟨c.value, (ofBytes_encode _).trans hread, c.means_value⟩

/-- A written definition is read as the one it was, whether it stands in an
object of its own or is one of several in an array. -/
theorem written_definitions_read_back (spaces : Nat) :
    (∀ d : Definition,
      Config.ofBytes (Utf8.encode ((Config.single d).text spaces)) = .ok (.single d)) ∧
    (∀ ds : List Definition,
      Config.ofBytes (Utf8.encode ((Config.versioned ds).text spaces)) = .ok (.versioned ds)) :=
  ⟨fun d => Config.ofBytes_text spaces (.single d),
    fun ds => Config.ofBytes_text spaces (.versioned ds)⟩

example : (Config.single ⟨none, [⟨"a", true, some [], "\""⟩]⟩).text 1 =
    "\x7b\"metadata_config\": \x7b\"version\":null,\"fields\":[\x7b\"field_name\":\"a\"," ++
      "\"required\":true,\"allowed_values\":[],\"description\":\"\\\"\"\x7d]\x7d\x7d" := by
  decide +kernel

end Schema

end UploadHooks
