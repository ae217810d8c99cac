import Mathlib.Data.List.OfFn
import Mathlib.Data.List.ReduceOption
import Mathlib.Logic.Equiv.Defs
import UploadHooks.Proofs.Schema.Validation

/-!
# One issue for each broken rule

`FieldRule.Raises` says which issue a rule raises, one case for each way to
break it, and `Raised` goes through rules in their order: a rule that is met
is passed over, and a broken one puts its issue in front of those of the
rules behind it. The list that validation makes is the only one that is
raised in this sense (`validateRules_eq_iff`).

A rule looks at nothing but the metadata's value of its own field. So rules
do not interfere: the issues of two lists of rules stand one behind the
other, rules in another order raise their issues in that order, and metadata
that differs in one field differs in the issues about that field only.
-/

namespace UploadHooks

namespace Schema

/-! ## One rule -/

/-- The issue that a rule raises about metadata that breaks it. -/
inductive FieldRule.Raises (rule : FieldRule) (m : Metadata) : Issue → Prop
  | missing : rule.required = true → m.get? rule.field = none →
      rule.Raises m (.missingRequired rule.field rule.description)
  | notAllowed {value : String} {values : List String} : m.get? rule.field = some value →
      rule.allowedValues = some values → values ≠ [] → value ∉ values →
      rule.Raises m (.notAllowed rule.field value values)

section Rule

variable {rule : FieldRule} {m : Metadata} {issue : Issue}

theorem FieldRule.issue?_eq_some_iff :
    rule.issue? (m.get? rule.field) = some issue ↔ rule.Raises m issue := by
  constructor
  · intro h
    cases hvalue : m.get? rule.field with
    | none =>
        rw [hvalue, issue?] at h
        split at h
        · next hrequired =>
          obtain rfl := Option.some.inj h
          exact .missing hrequired hvalue
        · cases h
    | some value =>
        rw [hvalue, issue?] at h
        split at h
        · next values hallowed =>
          obtain ⟨hvalues, hne⟩ := allowed?_eq_some_iff.mp hallowed
          split at h
          · cases h
          · next hnot =>
            obtain rfl := Option.some.inj h
            exact .notAllowed hvalue hvalues hne (mt List.contains_iff_mem.mpr hnot)
        · cases h
  · rintro (⟨hrequired, hnone⟩ | ⟨hvalue, hvalues, hne, hnot⟩)
    · rw [hnone, issue?, if_pos hrequired]
    · simp [hvalue, issue?, allowed?_eq_some_iff.mpr ⟨hvalues, hne⟩, hnot]

/-- The issue is about the field of the rule. -/
theorem FieldRule.Raises.field?_eq (h : rule.Raises m issue) : issue.field? = some rule.field := by
  cases h with
  | missing => rfl
  | notAllowed => rfl

end Rule

/-! ## All rules -/

/-- The issues that rules raise, one for each rule that is broken. -/
inductive Raised (m : Metadata) : List FieldRule → List Issue → Prop
  | nil : Raised m [] []
  | met {rule : FieldRule} {rules : List FieldRule} {issues : List Issue} :
      rule.Met m → Raised m rules issues → Raised m (rule :: rules) issues
  | broken {rule : FieldRule} {rules : List FieldRule} {issue : Issue} {issues : List Issue} :
      rule.Raises m issue → Raised m rules issues → Raised m (rule :: rules) (issue :: issues)

section Rules

variable (m : Metadata)

theorem validateRules_cons (rule : FieldRule) (rules : List FieldRule) :
    validateRules m (rule :: rules) =
      (rule.issue? (m.get? rule.field)).toList ++ validateRules m rules := by
  rw [validateRules, List.filterMap_cons]
  cases rule.issue? (m.get? rule.field) with
  | none => rfl
  | some issue => rfl

theorem raised_validateRules (rules : List FieldRule) :
    Raised m rules (validateRules m rules) := by
  induction rules with
  | nil => exact .nil
  | cons rule rules ih =>
      rw [validateRules_cons]
      cases hissue : rule.issue? (m.get? rule.field) with
      | none => exact .met (FieldRule.issue?_eq_none_iff.mp hissue) ih
      | some issue => exact .broken (FieldRule.issue?_eq_some_iff.mp hissue) ih

variable {m}

theorem Raised.eq_validateRules {rules : List FieldRule} {issues : List Issue}
    (h : Raised m rules issues) : issues = validateRules m rules := by
  induction h with
  | nil => rfl
  | met hmet _ ih =>
      rw [validateRules_cons, FieldRule.issue?_eq_none_iff.mpr hmet, ih]
      rfl
  | broken hraises _ ih =>
      rw [validateRules_cons, FieldRule.issue?_eq_some_iff.mpr hraises, ih]
      rfl

theorem validateRules_eq_iff {rules : List FieldRule} {issues : List Issue} :
    validateRules m rules = issues ↔ Raised m rules issues :=
  ⟨fun h => h ▸ raised_validateRules m rules, fun h => h.eq_validateRules.symm⟩

end Rules

/-! ## Rules in another order -/

/-- Each rule keeps its issue wherever it stands. -/
theorem validateRules_ofFn (m : Metadata) {n : ℕ} (rule : Fin n → FieldRule) :
    validateRules m (List.ofFn rule) =
      (List.ofFn fun i => (rule i).issue? (m.get? (rule i).field)).reduceOption := by
  have hissues : (List.ofFn fun i => (rule i).issue? (m.get? (rule i).field)) =
      (List.ofFn rule).map fun rule => rule.issue? (m.get? rule.field) := by
    rw [List.map_ofFn]
    rfl
  rw [hissues, List.reduceOption, List.filterMap_map]
  rfl

/-! ## Metadata that differs in one field -/

/-- The issues that are not about the field. -/
def notAbout (name : String) (issues : List Issue) : List Issue :=
  issues.filter (·.field? ≠ some name)

/-- They are those of the rules for other fields. -/
theorem notAbout_validateRules (m : Metadata) (name : String) (rules : List FieldRule) :
    notAbout name (validateRules m rules) =
      validateRules m (rules.filter (·.field ≠ name)) := by
  rw [notAbout, validateRules, validateRules, List.filter_filterMap, List.filterMap_filter]
  refine List.filterMap_congr fun rule _ => ?_
  cases hissue : rule.issue? (m.get? rule.field) with
  | none => simp
  | some issue =>
      have hfield := (FieldRule.issue?_eq_some_iff.mp hissue).field?_eq
      by_cases hname : rule.field = name <;> simp [Option.filter, hfield, hname]

/-- The two have the same fields, apart from that one. -/
def AgreeBeside (name : String) (m m' : Metadata) : Prop :=
  ∀ field, field ≠ name → m.get? field = m'.get? field

theorem AgreeBeside.notAbout_validate_eq {name : String} {m m' : Metadata}
    (h : AgreeBeside name m m') (d : Definition) :
    notAbout name (validate m d) = notAbout name (validate m' d) := by
  rw [validate, validate, notAbout_validateRules, notAbout_validateRules]
  refine validate_congr (d := ⟨d.version, d.rules.filter (·.field ≠ name)⟩) fun rule hrule => ?_
  exact h rule.field (of_decide_eq_true (List.mem_filter.mp hrule).2)

/-- Validation raises one issue for each rule that is broken and none for the
others, in the order of the rules. There is none if all rules are met. The
issues of two lists of rules stand one behind the other; under a permutation
of the rules each of them keeps its issue, which goes where its rule goes;
and metadata that has one field more, one less or another value in it gets
the same issues about all other fields. -/
theorem issues_of_broken_rules (m : Metadata) (version : Option String) :
    (∀ rules issues, validate m ⟨version, rules⟩ = issues ↔ Raised m rules issues) ∧
    (∀ rules, validate m ⟨version, rules⟩ = [] ↔ ∀ rule ∈ rules, rule.Met m) ∧
    (∀ rules rules', validate m ⟨version, rules ++ rules'⟩ =
      validate m ⟨version, rules⟩ ++ validate m ⟨version, rules'⟩) ∧
    (∀ (n : ℕ) (rule : Fin n → FieldRule), ∃ issue : Fin n → Option Issue,
      (∀ i, issue i = none ↔ (rule i).Met m) ∧
      (∀ i x, issue i = some x ↔ (rule i).Raises m x) ∧
      ∀ σ : Equiv.Perm (Fin n), validate m ⟨version, List.ofFn (rule ∘ σ)⟩ =
        (List.ofFn (issue ∘ σ)).reduceOption) ∧
    ∀ name m' rules, AgreeBeside name m m' →
      notAbout name (validate m ⟨version, rules⟩) =
        notAbout name (validate m' ⟨version, rules⟩) ∧
      notAbout name (validate m ⟨version, rules⟩) =
        validate m ⟨version, rules.filter (·.field ≠ name)⟩ := by
  refine ⟨fun rules issues => validateRules_eq_iff, fun rules => validate_eq_nil_iff,
    fun rules rules' => List.filterMap_append, fun n rule => ?_, fun name m' rules hagree => ?_⟩
  · refine ⟨fun i => (rule i).issue? (m.get? (rule i).field),
      fun i => FieldRule.issue?_eq_none_iff, fun i x => FieldRule.issue?_eq_some_iff, fun σ => ?_⟩
    exact validateRules_ofFn m (rule ∘ σ)
  · exact ⟨hagree.notAbout_validate_eq _, notAbout_validateRules m name rules⟩

/-- Three rules, two of them for one field, and what they say about metadata
without the field and with a value in it that is not allowed. -/
theorem issues_of_field_named_twice :
    let rules : List FieldRule := [⟨"owner", true, none, "who"⟩, ⟨"kind", false, some ["a"], ""⟩,
      ⟨"owner", false, some ["lab"], ""⟩]
    let m := Metadata.ofPairs [("kind", "b")]
    let m' := Metadata.ofPairs [("kind", "b"), ("owner", "me")]
    AgreeBeside "owner" m m' ∧
      validate m ⟨none, rules⟩ = [.missingRequired "owner" "who", .notAllowed "kind" "b" ["a"]] ∧
      validate m' ⟨none, rules⟩ =
        [.notAllowed "kind" "b" ["a"], .notAllowed "owner" "me" ["lab"]] ∧
      notAbout "owner" (validate m ⟨none, rules⟩) =
        notAbout "owner" (validate m' ⟨none, rules⟩) := by
  intro rules m m'
  have hagree : AgreeBeside "owner" m m' := by
    intro field hne
    simp [m, m', Metadata.get?, Metadata.ofPairs, Entries.ofPairs, Entries.get?_insert, hne]
  refine ⟨hagree, by decide +kernel, by decide +kernel, ?_⟩
  exact ((issues_of_broken_rules m none).2.2.2.2 "owner" m' rules hagree).1

end Schema

end UploadHooks
