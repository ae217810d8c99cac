import UploadHooks.Proofs.Lifecycle.Opening
import UploadHooks.Proofs.Verification.Verdict

/-!
# One pair of ids for an upload

The ids of an upload are read in three places: resolving takes them from
the metadata, the store is asked under the key made of them, and a report
looks for them again on its own, because it also has to name an upload
that did not resolve. For metadata that resolves the three are the same
pair (`reportIds_of_resolves`). Otherwise a report has of each id what
there is (`Reported`).

Verification and the flow after it never see each other, but both resolve
the same metadata. So an upload that was accepted can be opened, and its
trace is opened for the ids under which the store was asked.
-/

namespace UploadHooks

open Status (Client)

/-! ## Ids in reports -/

namespace Verification

/-- An id as it is reported: the value of its field, or a word for its
absence. It is absent exactly if it is one of the missing fields. -/
structure Reported (m : Metadata) (missing : List String) (field id : String) : Prop where
  named_iff : field ∈ missing ↔ m.get? field = none
  named : field ∈ missing → id = notProvided
  given : field ∉ missing → m.get? field = some id

section ReportIds

variable {m : Metadata}

theorem reportIds_of_resolves {upload : ResolvedUpload} (h : Resolves m upload) :
    reportIds m = (upload.useCase, upload.useCaseCategory) := by
  simp only [reportIds, h.version, h.useCase, h.category, Option.getD_some]

/-- For one field of the version the metadata is of. -/
theorem reported_of_idField {version : MetadataVersion} {field : String}
    (hfield : field = version.idFields.1 ∨ field = version.idFields.2) :
    Reported m (absentIds m version) field ((m.get? field).getD notProvided) := by
  have hmem : field ∈ absentIds m version ↔ m.get? field = none := by
    rw [mem_absentIds_iff]
    exact and_iff_right hfield
  refine ⟨hmem, fun h => ?_, fun h => ?_⟩
  · rw [hmem.mp h, Option.getD_none]
  · cases hvalue : m.get? field with
    | none => exact absurd (hmem.mpr hvalue) h
    | some value => rw [Option.getD_some]

theorem reportIds_of_missing {missing : List String}
    (h : resolve m = .error (.missingFields missing)) : ∃ version,
      MetadataVersion.ofMetadata m = .ok version ∧
      missing ⊆ [version.idFields.1, version.idFields.2] ∧
      Reported m missing version.idFields.1 (reportIds m).1 ∧
      Reported m missing version.idFields.2 (reportIds m).2 := by
  obtain ⟨version, hversion, rfl, -⟩ := resolve_eq_missingFields_iff.mp h
  simp only [reportIds, hversion]
  exact ⟨version, rfl, List.filter_subset_self .., reported_of_idField (.inl rfl),
    reported_of_idField (.inr rfl)⟩

theorem reportIds_of_unsupported {declared : String}
    (h : resolve m = .error (.unsupportedVersion declared)) :
    reportIds m = (notProvided, notProvided) := by
  obtain ⟨hdeclared, hnot⟩ := resolve_eq_unsupportedVersion_iff.mp h
  have hversion : MetadataVersion.ofMetadata m = .error (.unsupportedVersion declared) :=
    MetadataVersion.ofMetadata_error_iff.mpr ⟨declared, hdeclared, hnot, rfl⟩
  simp only [reportIds, hversion]

end ReportIds

end Verification

/-! ## Ids in traces -/

namespace Lifecycle

/-- The attempts of the run open a trace for the ids, which can be read
from the requests, and go on from there. -/
def OpensTraceFor (client : Client) (uploadId useCase category : String)
    (attempts : List Http.Attempt) : Prop :=
  ∃ opened started, attempts = opened ++ started ∧
    OpeningPhases client uploadId useCase category opened started ∧
    ∀ a ∈ opened, a.request.url.parameters = client.base.parameters ++
      [("uploadId", uploadId), ("destinationId", useCase), ("eventType", category)]

section Created

variable {client : Client} {m : Metadata} {upload : ResolvedUpload} (uploadId : String)
variable (script : Http.Script)

theorem postCreate_opensTraceFor (hbase : client.base.canBeBase = true)
    (h : resolve m = .ok upload) :
    OpensTraceFor client uploadId upload.useCase upload.useCaseCategory
      ((postCreate client uploadId m).run script).attempts := by
  obtain ⟨opened, started, hattempts, hphases, -⟩ := postCreate_phases uploadId script hbase h
  exact ⟨opened, started, hattempts, hphases, hphases.parameters_opened hbase⟩

theorem postCreate_ne_resolve (h : resolve m = .ok upload) (fault : ResolveFault) :
    ((postCreate client uploadId m).run script).value ≠ .error (.resolve fault) := by
  cases hbase : client.base.canBeBase with
  | false =>
      rw [postCreate_of_not_canBeBase uploadId hbase h, Session.value_pure]
      simp
  | true =>
      obtain ⟨opened, started, -, -, hvalue⟩ := postCreate_phases uploadId script hbase h
      rw [hvalue]
      exact openingResult_ne_resolve fault

end Created

end Lifecycle

/-! ## Verification and what comes after it -/

namespace Verification

open Lifecycle (OpensTraceFor)

/-- What an upload that is accepted was checked against: the definition
that the store has under the ids of the upload. -/
theorem accepted_under_key {store : Schema.Store} {m : Metadata} (h : verdict store m = .ok ()) :
    ∃ upload config d, resolve m = .ok upload ∧
      (store (.forUpload upload)).result = .ok config ∧
      config.select (m.get? schemaVersionField) = .ok d ∧ Schema.allIssues m d = [] := by
  obtain ⟨d, ⟨upload, config, hresolves, hconfig, hselect⟩, hissues⟩ := verdict_eq_ok_iff.mp h
  exact ⟨upload, config, d, resolve_eq_ok_iff.mpr hresolves, hconfig, hselect, hissues⟩

/-- All flows name an upload by the same ids. If its metadata resolves they
are those of its report, of its trace and of the key that the store is
asked for; if an id is missing, its report has the other one and says so.
Metadata that was accepted always resolves when the trace is opened, which
is then opened for the ids of the definition it was checked against. -/
theorem flows_agree_on_ids (m : Metadata) :
    (∀ upload, resolve m = .ok upload →
      reportIds m = (upload.useCase, upload.useCaseCategory) ∧
      (∀ client uploadId script, client.base.canBeBase = true →
        OpensTraceFor client uploadId (reportIds m).1 (reportIds m).2
          ((Lifecycle.postCreate client uploadId m).run script).attempts) ∧
      ∀ store reporter uploadId script,
        ((verify store reporter uploadId m).run script).fetches.map (·.1) =
          [⟨(reportIds m).1, (reportIds m).2, upload.version.major⟩]) ∧
    (∀ missing, resolve m = .error (.missingFields missing) → ∃ version,
      MetadataVersion.ofMetadata m = .ok version ∧
      missing ⊆ [version.idFields.1, version.idFields.2] ∧
      Reported m missing version.idFields.1 (reportIds m).1 ∧
      Reported m missing version.idFields.2 (reportIds m).2) ∧
    (∀ declared, resolve m = .error (.unsupportedVersion declared) →
      reportIds m = (notProvided, notProvided)) ∧
    ∀ store reporter uploadId script,
      let run := (verify store reporter uploadId m).run script
      run.value = .ok () → ∃ key config d,
        run.fetches = [(key, (store key).attempts)] ∧ (store key).result = .ok config ∧
        config.select (m.get? schemaVersionField) = .ok d ∧ Schema.allIssues m d = [] ∧
        ∀ client uploadId script,
          let created := (Lifecycle.postCreate client uploadId m).run script
          (∀ fault, created.value ≠ .error (.resolve fault)) ∧
          (client.base.canBeBase = true →
            OpensTraceFor client uploadId key.useCase key.useCaseCategory created.attempts) := by
  refine ⟨fun upload h => ?_, fun missing => reportIds_of_missing,
    fun declared => reportIds_of_unsupported, ?_⟩
  · rw [reportIds_of_resolves (resolve_eq_ok_iff.mp h)]
    refine ⟨rfl, fun client uploadId script hbase => ?_, fun store reporter uploadId script => ?_⟩
    · exact Lifecycle.postCreate_opensTraceFor uploadId script hbase h
    · rw [fetches_verify, questions, h]
      rfl
  · intro store reporter uploadId script run haccepted
    rw [show run.value = _ from value_verify store reporter uploadId m script] at haccepted
    obtain ⟨upload, config, d, h, hconfig, hselect, hissues⟩ := accepted_under_key haccepted
    refine ⟨.forUpload upload, config, d, ?_, hconfig, hselect, hissues, fun client id script => ?_⟩
    · rw [show run.fetches = _ from fetches_verify store reporter uploadId m script, questions, h]
    · exact ⟨Lifecycle.postCreate_ne_resolve id script h,
        fun hbase => Lifecycle.postCreate_opensTraceFor id script hbase h⟩

/-- With one id missing the other one is reported; with both, in whatever
spelling of the version, the upload is accepted, and opened under its key. -/
theorem ids_of_missing_and_accepted :
    let partly := Metadata.ofPairs [("version", " +2.0.0"), ("data_stream_route", "hl7")]
    let m := Metadata.ofPairs [("version", " +2.0.0"), ("data_stream_route", "hl7"),
      ("data_stream_id", ""), ("meta_destination_id", "ndlp"), ("filename", "a.csv")]
    let store : Schema.Store := fun _ => ⟨.ok (.single ⟨none, []⟩), []⟩
    let client : Client := ⟨⟨"http", .authority ⟨"", "", "status", none⟩, .segments [],
      some "key", none⟩, ⟨1, .ofSecs 1⟩⟩
    let created := (Lifecycle.postCreate client "upload" m).run []
    reportIds partly = (notProvided, "hl7") ∧ reportIds m = ("", "hl7") ∧
      ((verify store none "upload" m).run []).value = .ok () ∧
      (∀ fault, created.value ≠ .error (.resolve fault)) ∧
      OpensTraceFor client "upload" "" "hl7" created.attempts := by
  intro partly m store client created
  have hmissing : resolve partly = .error (.missingFields ["data_stream_id"]) := by decide +kernel
  have hresolve : resolve m = .ok ⟨.v2, "", "hl7"⟩ := by decide +kernel
  have haccepted : ((verify store none "upload" m).run []).value = .ok () := by
    rw [value_verify, verdict_eq_ok_iff]
    exact ⟨⟨none, []⟩, ⟨_, _, resolve_eq_ok_iff.mp hresolve, rfl, rfl⟩, by decide +kernel⟩
  obtain ⟨-, hreported, -⟩ := flows_agree_on_ids partly
  obtain ⟨version, hversion, -, hfirst, hsecond⟩ := hreported _ hmissing
  obtain ⟨hids, -, -, hcreated⟩ := flows_agree_on_ids m
  obtain ⟨key, -, -, hfetches, -, -, -, hopens⟩ := hcreated store none "upload" [] haccepted
  obtain rfl : key = ⟨"", "hl7", 2⟩ := by
    rw [fetches_verify, questions, hresolve] at hfetches
    cases hfetches
    rfl
  obtain ⟨hresolves, htrace⟩ := hopens client "upload" []
  refine ⟨?_, (hids _ hresolve).1, haccepted, hresolves, htrace rfl⟩
  have hv2 : version = .v2 := by
    have h : MetadataVersion.ofMetadata partly = .ok .v2 := by decide +kernel
    exact Except.ok.inj (hversion.symm.trans h)
  subst hv2
  have hname := hfirst.named (by decide)
  have hvalue := hsecond.given (by decide)
  have hgiven : partly.get? MetadataVersion.v2.idFields.2 = some "hl7" := by decide +kernel
  exact Prod.ext hname (Option.some.inj (hvalue.symm.trans hgiven))

end Verification

end UploadHooks
