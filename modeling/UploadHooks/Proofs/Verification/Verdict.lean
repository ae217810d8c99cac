import UploadHooks.Proofs.Schema.Validation
import UploadHooks.Proofs.Status.Exchange
import UploadHooks.Proofs.Upload
import UploadHooks.Verification.Reporting

/-!
# The verdict on metadata

Verifying is a session, but its verdict is a function of the metadata and
of what the store answers (`value_verify`): the report of a rejection
comes after the verdict and has no say in it. The session asks the store
once if the metadata resolves, and otherwise not at all
(`fetches_verify`).

`verify_decided_by_stages` says which verdict it is. Each of the five
stands for the stages before it having been passed: `Resolves` is passing
the first two, `Applies` passing the next two, and the last one leaves the
rules and the filename.
-/

namespace UploadHooks

namespace Verification

open Schema (Definition Key Store StoreFault)
open Filename (Named Clean)

/-! ## Stages -/

/-- The definition that the store has for the metadata, in the version
that it asks for. -/
def Applies (store : Store) (m : Metadata) (d : Definition) : Prop :=
  ∃ upload config, Resolves m upload ∧ (store (.forUpload upload)).result = .ok config ∧
    config.select (m.get? schemaVersionField) = .ok d

/-- The store has none, for the reason given. -/
def Lacks (store : Store) (m : Metadata) (fault : StoreFault) : Prop :=
  ∃ upload, Resolves m upload ∧
    ((store (.forUpload upload)).result = .error fault ∨
      ∃ config cause, (store (.forUpload upload)).result = .ok config ∧
        config.select (m.get? schemaVersionField) = .error cause ∧
        fault = .notFound (Key.forUpload upload).path (.selection cause))

/-- What the metadata is judged to be, once the store has been asked. -/
def verdict (store : Store) (m : Metadata) : Except Rejection Unit :=
  match resolve m with
  | .error fault => .error (.ofResolve fault)
  | .ok upload => judge (.forUpload upload) m (store (.forUpload upload)).result

/-- The questions to the store, with the requests they take: one for the
key of the upload, and none if there is no upload. -/
def questions (store : Store) (m : Metadata) : List (Key × List Http.Attempt) :=
  match resolve m with
  | .error _ => []
  | .ok upload => [(.forUpload upload, (store (.forUpload upload)).attempts)]

variable {store : Store} {m : Metadata}

theorem verdict_of_resolves {upload : ResolvedUpload} (h : Resolves m upload) :
    verdict store m = judge (.forUpload upload) m (store (.forUpload upload)).result := by
  rw [verdict, resolve_eq_ok_iff.mpr h]

theorem verdict_of_applies {d : Definition} (h : Applies store m d) :
    verdict store m =
      match Schema.allIssues m d with
      | [] => .ok ()
      | issue :: issues => .error (.validationFailed (issue :: issues)) := by
  obtain ⟨upload, config, hup, hconfig, hselect⟩ := h
  rw [verdict_of_resolves hup, hconfig, judge, definitionFor, hselect]
  rfl

theorem verdict_of_lacks {fault : StoreFault} (h : Lacks store m fault) :
    verdict store m = .error (.schemaNotFound fault) := by
  obtain ⟨upload, hup, hfault | ⟨config, cause, hconfig, hselect, rfl⟩⟩ := h
  · rw [verdict_of_resolves hup, hfault, judge]
  · rw [verdict_of_resolves hup, hconfig, judge, definitionFor, hselect]
    rfl

/-- Every run of the stages ends in one of three ways. -/
theorem stages (store : Store) (m : Metadata) : (∃ fault, resolve m = .error fault) ∨
    (∃ fault, Lacks store m fault) ∨ ∃ d, Applies store m d := by
  cases hr : resolve m with
  | error fault => exact .inl ⟨fault, rfl⟩
  | ok upload =>
      have hup := resolve_eq_ok_iff.mp hr
      refine .inr ?_
      cases hs : (store (.forUpload upload)).result with
      | error fault => exact .inl ⟨fault, upload, hup, .inl hs⟩
      | ok config =>
          cases hd : config.select (m.get? schemaVersionField) with
          | error cause => exact .inl ⟨_, upload, hup, .inr ⟨config, cause, hs, hd, rfl⟩⟩
          | ok d => exact .inr ⟨d, upload, config, hup, hs, hd⟩

/-! ## One verdict after the other -/

theorem verdict_of_resolve_error {fault : ResolveFault} (h : resolve m = .error fault) :
    verdict store m = .error (.ofResolve fault) := by
  rw [verdict, h]

theorem verdict_eq_ofResolve_iff (fault : ResolveFault) :
    verdict store m = .error (.ofResolve fault) ↔ resolve m = .error fault := by
  refine ⟨fun h => ?_, verdict_of_resolve_error⟩
  rcases stages store m with ⟨fault', hf⟩ | ⟨fault', hf⟩ | ⟨d, hd⟩
  · rw [verdict_of_resolve_error hf] at h
    rw [hf]
    cases fault <;> cases fault' <;> cases h <;> rfl
  · rw [verdict_of_lacks hf] at h
    cases fault <;> cases h
  · rw [verdict_of_applies hd] at h
    split at h
    · cases h
    · cases fault <;> cases h

theorem verdict_eq_schemaNotFound_iff {fault : StoreFault} :
    verdict store m = .error (.schemaNotFound fault) ↔ Lacks store m fault := by
  refine ⟨fun h => ?_, verdict_of_lacks⟩
  rcases stages store m with ⟨fault', hf⟩ | ⟨fault', hf⟩ | ⟨d, hd⟩
  · rw [verdict_of_resolve_error hf] at h
    cases fault' <;> cases h
  · rw [verdict_of_lacks hf] at h
    obtain rfl := Rejection.schemaNotFound.inj (Except.error.inj h)
    exact hf
  · rw [verdict_of_applies hd] at h
    split at h <;> cases h

theorem verdict_eq_ok_iff : verdict store m = .ok () ↔ ∃ d, Applies store m d ∧
    Schema.allIssues m d = [] := by
  constructor
  · intro h
    rcases stages store m with ⟨fault', hf⟩ | ⟨fault', hf⟩ | ⟨d, hd⟩
    · rw [verdict_of_resolve_error hf] at h
      cases h
    · rw [verdict_of_lacks hf] at h
      cases h
    · rw [verdict_of_applies hd] at h
      split at h
      · next hnil => exact ⟨d, hd, hnil⟩
      · cases h
  · rintro ⟨d, hd, hnil⟩
    rw [verdict_of_applies hd, hnil]

theorem verdict_eq_validationFailed_iff {issues : List Issue} :
    verdict store m = .error (.validationFailed issues) ↔
      issues ≠ [] ∧ ∃ d, Applies store m d ∧ Schema.allIssues m d = issues := by
  constructor
  · intro h
    rcases stages store m with ⟨fault', hf⟩ | ⟨fault', hf⟩ | ⟨d, hd⟩
    · rw [verdict_of_resolve_error hf] at h
      cases fault' <;> cases h
    · rw [verdict_of_lacks hf] at h
      cases h
    · rw [verdict_of_applies hd] at h
      split at h
      · cases h
      · next issue rest hissues =>
        cases h
        exact ⟨by simp, d, hd, hissues⟩
  · rintro ⟨hne, d, hd, rfl⟩
    rw [verdict_of_applies hd]
    split
    · next hnil => exact absurd hnil hne
    · next hissues => rw [hissues]

/-! ## The session -/

section Run

variable (store : Store) (reporter : Option Status.Client) (uploadId : String) (m : Metadata)
variable (script : Http.Script)

theorem value_check : ((check store m).run script).value = verdict store m := by
  rw [check, verdict]
  cases resolve m with
  | error fault => rfl
  | ok upload => rfl

theorem attempts_check : ((check store m).run script).attempts = [] := by
  rw [check]
  split <;> simp

theorem rest_check : ((check store m).run script).rest = script := by
  rw [check]
  split <;> simp

theorem fetches_check : ((check store m).run script).fetches = questions store m := by
  rw [check, questions]
  cases resolve m with
  | error fault => rfl
  | ok upload => rfl

theorem fetches_submit (client : Status.Client) (useCase category report : String) :
    ((submit client uploadId useCase category report).run script).fetches = [] := by
  simp only [submit, Status.Client.createTrace, Status.Client.startSpan,
    Status.Client.createReport, Status.Client.stopSpan, Session.fetches_bind,
    Status.Client.fetches_sendForSpan, List.nil_append]
  split
  · simp
  · simp only [Session.fetches_bind, Status.Client.fetches_sendForSpan, List.nil_append]
    split <;> simp

theorem fetches_reportRejection (rejection : Rejection) :
    ((reportRejection reporter uploadId m rejection).run script).fetches = [] := by
  cases reporter with
  | none => simp [reportRejection]
  | some client =>
      simp only [reportRejection, Session.fetches_bind, fetches_submit, List.nil_append]
      split <;> simp

/-- Nothing that happens to a report can change the verdict. -/
theorem value_verify : ((verify store reporter uploadId m).run script).value = verdict store m := by
  rw [verify, Session.value_bind, value_check]
  cases verdict store m with
  | ok _ => rfl
  | error rejection => rfl

theorem fetches_verify :
    ((verify store reporter uploadId m).run script).fetches = questions store m := by
  rw [← fetches_check store m script, verify, Session.fetches_bind]
  split <;> simp [fetches_reportRejection]

end Run

/-! ## Which verdict it is -/

/-- Metadata is accepted exactly if it passes all stages; otherwise the
first stage that it does not pass decides how it is rejected. The store is
asked once, for the key of the upload, and only if the metadata
resolves. -/
theorem verify_decided_by_stages (store : Store) (reporter : Option Status.Client)
    (uploadId : String) (m : Metadata) (script : Http.Script) :
    let run := (verify store reporter uploadId m).run script
    (run.value = .ok () ↔ ∃ d, Applies store m d ∧ (∀ rule ∈ d.rules, rule.Met m) ∧
      ∃ name, Named m name ∧ Clean name) ∧
    (∀ declared, run.value = .error (.unsupportedVersion declared) ↔
      m.get? versionField = some declared ∧
        ∀ version, MetadataVersion.parse declared ≠ .ok version) ∧
    (∀ missing, run.value = .error (.missingFields missing) ↔ ∃ version,
      MetadataVersion.ofMetadata m = .ok version ∧ missing = absentIds m version ∧
        missing ≠ []) ∧
    (∀ fault, run.value = .error (.schemaNotFound fault) ↔ Lacks store m fault) ∧
    (∀ issues, run.value = .error (.validationFailed issues) ↔ issues ≠ [] ∧
      ∃ d added, Applies store m d ∧
        Schema.FilenameIssues m (Schema.validate m d) added ∧
        issues = Schema.validate m d ++ added) ∧
    (∀ upload, Resolves m upload →
      run.fetches = [(.forUpload upload, (store (.forUpload upload)).attempts)]) ∧
    ((∀ upload, ¬ Resolves m upload) → run.fetches = []) := by
  intro run
  have hvalue : run.value = verdict store m := value_verify ..
  have hfetches : run.fetches = questions store m := fetches_verify ..
  rw [hvalue, hfetches, questions]
  refine ⟨?_, fun declared => ?_, fun missing => ?_, fun fault => verdict_eq_schemaNotFound_iff,
    fun issues => ?_, fun upload h => ?_, fun h => ?_⟩
  · rw [verdict_eq_ok_iff]
    exact exists_congr fun d => and_congr_right fun _ => Schema.allIssues_eq_nil_iff
  · rw [← resolve_eq_unsupportedVersion_iff]
    exact verdict_eq_ofResolve_iff (.unsupportedVersion declared)
  · rw [← resolve_eq_missingFields_iff]
    exact verdict_eq_ofResolve_iff (.missingFields missing)
  · rw [verdict_eq_validationFailed_iff]
    simp only [Schema.allIssues_eq_iff, exists_and_left]
  · rw [resolve_eq_ok_iff.mpr h]
  · cases hr : resolve m with
    | error fault => rfl
    | ok upload => exact absurd (resolve_eq_ok_iff.mp hr) (h upload)

end Verification

end UploadHooks
