import Mathlib.Data.List.Basic
import UploadHooks.Schema.Validation

/-!
# What the issues say

The list of issues against its meaning. A rule raises no issue exactly
when it is met (`issue?_eq_none_iff`), so the rules of a definition raise
none exactly when all of them are (`validate_eq_nil_iff`). The filename
adds at most one issue to theirs, and `FilenameIssues` says which, one
case for each state that the filename can be in; the case without a name
is split by whether the rules have said so already.

Only metadata that meets every rule and has a clean name is without
issues (`allIssues_eq_nil_iff`): the missing name that is not reported a
second time has been reported once. The fields of the rules and those of
the filename are the only ones that are looked at (`allIssues_congr`).
-/

namespace UploadHooks

/-! ## Filenames -/

namespace Filename

/-- The metadata names the file: the value of the first field present. -/
def Named (m : Metadata) (name : String) : Prop :=
  ∃ earlier field later, fields = earlier ++ field :: later ∧ m.get? field = some name ∧
    ∀ f ∈ earlier, m.get? f = none

/-- None of the fields is present. -/
def Nameless (m : Metadata) : Prop := ∀ field ∈ fields, m.get? field = none

def Clean (name : String) : Prop := ∀ c ∈ name.toList, c ∉ forbidden

theorem find?_eq_some_iff {m : Metadata} {name : String} :
    find? m = some name ↔ Named m name :=
  List.findSome?_eq_some_iff

theorem find?_eq_none_iff {m : Metadata} : find? m = none ↔ Nameless m :=
  List.findSome?_eq_none_iff

theorem named_or_nameless (m : Metadata) : (∃ name, Named m name) ∨ Nameless m := by
  cases hf : find? m with
  | some name => exact .inl ⟨name, find?_eq_some_iff.mp hf⟩
  | none => exact .inr (find?_eq_none_iff.mp hf)

theorem offending_eq_nil_iff {name : String} : offending name = [] ↔ Clean name := by
  simp only [List.eq_nil_iff_forall_not_mem, mem_offending, not_and, Clean]

theorem check_clean {name : String} (h : Clean name) : check name = .ok () := by
  simp [check, offending_eq_nil_iff.mpr h]

theorem check_not_clean {name : String} (h : ¬ Clean name) :
    check name = .error (.invalid name (offending name)) := by
  simp [check, mt offending_eq_nil_iff.mp h]

theorem fault?_nameless {m : Metadata} (h : Nameless m) : fault? m = some .absent := by
  rw [fault?, find?_eq_none_iff.mpr h]

theorem fault?_clean {m : Metadata} {name : String} (h : Named m name) (hclean : Clean name) :
    fault? m = none := by
  simp only [fault?, find?_eq_some_iff.mpr h, check_clean hclean]

theorem fault?_invalid {m : Metadata} {name : String} (h : Named m name)
    (hclean : ¬ Clean name) : fault? m = some (.invalid name (offending name)) := by
  simp only [fault?, find?_eq_some_iff.mpr h, check_not_clean hclean]

end Filename

namespace Schema

open Filename (Named Nameless Clean)

/-! ## Rules -/

/-- A required field is present, and a present one with a list of allowed
values that is not empty has one of them. -/
structure FieldRule.Met (rule : FieldRule) (m : Metadata) : Prop where
  present : rule.required = true → m.contains rule.field = true
  allowed : ∀ value values, m.get? rule.field = some value →
    rule.allowedValues = some values → values ≠ [] → value ∈ values

theorem FieldRule.allowed?_eq_some_iff {rule : FieldRule} {values : List String} :
    rule.allowed? = some values ↔ rule.allowedValues = some values ∧ values ≠ [] := by
  simp [allowed?, Option.filter_eq_some_iff]

theorem FieldRule.issue?_eq_none_iff {rule : FieldRule} {m : Metadata} :
    rule.issue? (m.get? rule.field) = none ↔ rule.Met m := by
  cases hv : m.get? rule.field with
  | none =>
      cases hr : rule.required with
      | true =>
          refine ⟨fun h => by simp [issue?, hr] at h, fun h => ?_⟩
          have := h.present hr
          simp [Metadata.contains, hv] at this
      | false =>
          refine ⟨fun _ => ⟨fun h => ?_, fun value values h => ?_⟩, fun _ => by simp [issue?, hr]⟩
          · rw [hr] at h
            cases h
          · rw [hv] at h
            cases h
  | some value =>
      have hpresent : m.contains rule.field = true := by simp [Metadata.contains, hv]
      cases ha : rule.allowed? with
      | none =>
          refine ⟨fun _ => ⟨fun _ => hpresent, fun _ values _ hvalues hne => ?_⟩,
            fun _ => by simp [issue?, ha]⟩
          rw [allowed?_eq_some_iff.mpr ⟨hvalues, hne⟩] at ha
          cases ha
      | some values =>
          obtain ⟨hvalues, hne⟩ := allowed?_eq_some_iff.mp ha
          have hissue : rule.issue? (some value) = none ↔ value ∈ values := by
            simp [issue?, ha]
          rw [hissue]
          constructor
          · refine fun hmem => ⟨fun _ => hpresent, fun v vs hget hallowed _ => ?_⟩
            obtain rfl := Option.some.inj (hv.symm.trans hget)
            obtain rfl := Option.some.inj (hvalues.symm.trans hallowed)
            exact hmem
          · exact fun h => h.allowed value values hv hvalues hne

theorem validate_eq_nil_iff {m : Metadata} {d : Definition} :
    validate m d = [] ↔ ∀ rule ∈ d.rules, rule.Met m := by
  rw [validate, validateRules, List.filterMap_eq_nil_iff]
  exact forall₂_congr fun rule _ => FieldRule.issue?_eq_none_iff

/-! ## The filename's issue -/

/-- What the filename adds to the issues of the rules. -/
inductive FilenameIssues (m : Metadata) (issues : List Issue) : List Issue → Prop
  | clean {name : String} : Named m name → Clean name → FilenameIssues m issues []
  | invalid {name : String} : Named m name → ¬ Clean name →
      FilenameIssues m issues [.invalidFilename name (Filename.offending name)]
  | flagged {field description : String} : Nameless m → field ∈ Filename.fields →
      .missingRequired field description ∈ issues → FilenameIssues m issues []
  | unflagged : Nameless m →
      (∀ field ∈ Filename.fields, ∀ description, .missingRequired field description ∉ issues) →
      FilenameIssues m issues [.noFilename Filename.fields]

theorem flagsMissingFilename_iff {issues : List Issue} : flagsMissingFilename issues = true ↔
    ∃ field ∈ Filename.fields, ∃ description, .missingRequired field description ∈ issues := by
  rw [flagsMissingFilename, List.any_eq_true]
  constructor
  · rintro ⟨issue, hmem, h⟩
    cases issue with
    | missingRequired field description =>
        exact ⟨field, List.contains_iff_mem.mp h, description, hmem⟩
    | notAllowed field value allowed => cases h
    | noFilename candidates => cases h
    | invalidFilename filename characters => cases h
  · rintro ⟨field, hfield, description, hmem⟩
    exact ⟨_, hmem, List.contains_iff_mem.mpr hfield⟩

theorem filenameIssue?_spec (m : Metadata) (issues : List Issue) :
    FilenameIssues m issues (filenameIssue? m issues).toList := by
  rcases Filename.named_or_nameless m with ⟨name, hname⟩ | hnone
  · by_cases hclean : Clean name
    · rw [filenameIssue?, Filename.fault?_clean hname hclean]
      exact .clean hname hclean
    · rw [filenameIssue?, Filename.fault?_invalid hname hclean]
      exact .invalid hname hclean
  · rw [filenameIssue?, Filename.fault?_nameless hnone]
    cases hf : flagsMissingFilename issues with
    | true =>
        obtain ⟨field, hfield, description, hmem⟩ := flagsMissingFilename_iff.mp hf
        exact .flagged hnone hfield hmem
    | false =>
        refine .unflagged hnone fun field hfield description hmem => ?_
        rw [flagsMissingFilename_iff.mpr ⟨field, hfield, description, hmem⟩] at hf
        cases hf

theorem FilenameIssues.eq_toList {m : Metadata} {issues added : List Issue}
    (h : FilenameIssues m issues added) : added = (filenameIssue? m issues).toList := by
  cases h with
  | clean hname hclean => rw [filenameIssue?, Filename.fault?_clean hname hclean]; rfl
  | invalid hname hclean => rw [filenameIssue?, Filename.fault?_invalid hname hclean]; rfl
  | flagged hnone hfield hmem =>
      have hf := flagsMissingFilename_iff.mpr ⟨_, hfield, _, hmem⟩
      simp [filenameIssue?, Filename.fault?_nameless hnone, hf]
  | unflagged hnone hnot =>
      have hf : flagsMissingFilename issues ≠ true := fun hf => by
        obtain ⟨field, hfield, description, hmem⟩ := flagsMissingFilename_iff.mp hf
        exact hnot field hfield description hmem
      simp [filenameIssue?, Filename.fault?_nameless hnone, hf, Filename.Fault.issue]

/-! ## All issues -/

theorem allIssues_eq_iff {m : Metadata} {d : Definition} {issues : List Issue} :
    allIssues m d = issues ↔
      ∃ added, FilenameIssues m (validate m d) added ∧ issues = validate m d ++ added := by
  rw [allIssues]
  constructor
  · rintro rfl
    exact ⟨_, filenameIssue?_spec .., rfl⟩
  · rintro ⟨added, hadded, rfl⟩
    rw [hadded.eq_toList]

/-- A rule whose field is absent is among the issues whatever the others
say. -/
theorem missingRequired_mem_allIssues {m : Metadata} {d : Definition} {rule : FieldRule}
    (hrule : rule ∈ d.rules) (hrequired : rule.required = true)
    (habsent : m.get? rule.field = none) :
    .missingRequired rule.field rule.description ∈ allIssues m d := by
  refine List.mem_append_left _ (List.mem_filterMap.mpr ⟨rule, hrule, ?_⟩)
  rw [habsent, FieldRule.issue?, if_pos hrequired]

theorem allIssues_eq_nil_iff {m : Metadata} {d : Definition} : allIssues m d = [] ↔
    (∀ rule ∈ d.rules, rule.Met m) ∧ ∃ name, Named m name ∧ Clean name := by
  rw [allIssues_eq_iff, ← validate_eq_nil_iff]
  constructor
  · rintro ⟨added, hadded, h⟩
    obtain ⟨hrules, rfl⟩ := List.append_eq_nil_iff.mp h.symm
    rw [hrules] at hadded
    cases hadded with
    | clean hname hclean => exact ⟨hrules, _, hname, hclean⟩
    | flagged _ _ hmem => cases hmem
  · rintro ⟨hrules, name, hname, hclean⟩
    exact ⟨[], .clean hname hclean, by rw [hrules]; rfl⟩

end Schema

/-! ## What is looked at -/

section Looked

variable {m m' : Metadata}

theorem Filename.fault?_congr (h : ∀ field ∈ fields, m.get? field = m'.get? field) :
    fault? m = fault? m' := by
  have hfind : ∀ m : Metadata, find? m = (fields.map m.get?).findSome? id :=
    fun m => List.findSome?_map.symm
  rw [fault?, fault?, hfind, hfind, List.map_congr_left h]

theorem Schema.validate_congr {d : Definition}
    (h : ∀ rule ∈ d.rules, m.get? rule.field = m'.get? rule.field) :
    validate m d = validate m' d :=
  List.filterMap_congr fun rule hrule => by rw [h rule hrule]

theorem Schema.allIssues_congr {d : Definition}
    (hrules : ∀ rule ∈ d.rules, m.get? rule.field = m'.get? rule.field)
    (hnames : ∀ field ∈ Filename.fields, m.get? field = m'.get? field) :
    allIssues m d = allIssues m' d := by
  rw [allIssues, allIssues, validate_congr hrules, filenameIssue?, filenameIssue?,
    Filename.fault?_congr hnames]

end Looked

end UploadHooks
