import UploadHooks.Proofs.Entries
import UploadHooks.Proofs.Verification.Verdict

/-!
# The fields that decide

Metadata may have any fields, and most of them have no say in its verdict.
Which ones have is only found out on the way: the declared version names
the fields of the ids, the ids lead to a configuration, `schema_version`
picks a definition in it, and the rules of that definition name the rest.
`decidingFields` collects them for one metadata and a store.

Other metadata with the same values in these fields is judged the same.
The two runs are followed stage by stage, and what the first one has found
at a stage is what makes the second one look at the same fields in the
next: it resolves to the same upload (`resolve_congr`), so the same
definition applies to it (`Applies.congr`) or is lacking for the same
reason (`Lacks.congr`), and that definition raises the same issues. Only
the values of the first metadata are needed to say where they must agree;
the deciding fields of the second one turn out to be the same.
-/

namespace UploadHooks

namespace Verification

open Schema (Definition Store StoreFault)
open Entries (IsLast)

/-! ## What is found out on the way -/

/-- The definition that the metadata is checked against, if it gets that
far. -/
def selected? (store : Store) (m : Metadata) : Option Definition :=
  match resolve m with
  | .error _ => none
  | .ok upload =>
    match (store (.forUpload upload)).result with
    | .error _ => none
    | .ok config => (config.select (m.get? schemaVersionField)).toOption

/-- The fields of the ids, under the version that the metadata is of. -/
def idFields (m : Metadata) : List String :=
  match MetadataVersion.ofMetadata m with
  | .error _ => []
  | .ok version => [version.idFields.1, version.idFields.2]

def ruleFields (store : Store) (m : Metadata) : List String :=
  (selected? store m).elim [] fun d => d.rules.map (·.field)

def decidingFields (store : Store) (m : Metadata) : List String :=
  [versionField, schemaVersionField] ++ Filename.fields ++ idFields m ++ ruleFields store m

/-- Both have the field with one value, or neither has it. -/
def AgreeOn (fields : List String) (m m' : Metadata) : Prop :=
  ∀ field ∈ fields, m.get? field = m'.get? field

instance (fields : List String) (m m' : Metadata) : Decidable (AgreeOn fields m m') :=
  inferInstanceAs (Decidable (∀ field ∈ fields, m.get? field = m'.get? field))

variable {store : Store} {m m' : Metadata}

theorem selected?_eq_some_iff {d : Definition} :
    selected? store m = some d ↔ Applies store m d := by
  rw [selected?]
  constructor
  · intro h
    split at h
    · cases h
    · next upload hup =>
      split at h
      · cases h
      · next config hconfig =>
        cases hselect : config.select (m.get? schemaVersionField) with
        | error cause => rw [hselect] at h; cases h
        | ok d' =>
            rw [hselect] at h
            obtain rfl := Option.some.inj h
            exact ⟨upload, config, resolve_eq_ok_iff.mp hup, hconfig, hselect⟩
  · rintro ⟨upload, config, hup, hconfig, hselect⟩
    simp only [resolve_eq_ok_iff.mpr hup, hconfig, hselect]
    rfl

/-! ## One stage after the other -/

section Agreeing

variable (h : AgreeOn (decidingFields store m) m m')
include h

theorem version_agrees : m.get? versionField = m'.get? versionField :=
  h versionField (by simp [decidingFields])

theorem schemaVersion_agrees : m.get? schemaVersionField = m'.get? schemaVersionField :=
  h schemaVersionField (by simp [decidingFields])

theorem resolve_agrees : resolve m = resolve m' := by
  refine resolve_congr (version_agrees h) fun version hversion => ?_
  have hids : idFields m = [version.idFields.1, version.idFields.2] := by rw [idFields, hversion]
  exact ⟨h _ (by simp [decidingFields, hids]), h _ (by simp [decidingFields, hids])⟩

theorem Applies.congr {d : Definition} (hd : Applies store m d) : Applies store m' d := by
  obtain ⟨upload, config, hup, hconfig, hselect⟩ := hd
  rw [← resolve_eq_ok_iff, resolve_agrees h, resolve_eq_ok_iff] at hup
  exact ⟨upload, config, hup, hconfig, schemaVersion_agrees h ▸ hselect⟩

theorem Lacks.congr {fault : StoreFault} (hf : Lacks store m fault) : Lacks store m' fault := by
  obtain ⟨upload, hup, hf⟩ := hf
  rw [← resolve_eq_ok_iff, resolve_agrees h, resolve_eq_ok_iff] at hup
  exact ⟨upload, hup, schemaVersion_agrees h ▸ hf⟩

theorem allIssues_agree {d : Definition} (hd : Applies store m d) :
    Schema.allIssues m d = Schema.allIssues m' d := by
  have hrules : ruleFields store m = d.rules.map (·.field) := by
    rw [ruleFields, selected?_eq_some_iff.mpr hd, Option.elim_some]
  refine Schema.allIssues_congr (fun rule hrule => h _ ?_) fun field hfield => h _ ?_
  · rw [decidingFields, hrules]
    exact List.mem_append_right _ (List.mem_map_of_mem hrule)
  · simp [decidingFields, hfield]

theorem verdict_agrees : verdict store m = verdict store m' := by
  rcases stages store m with ⟨fault, hf⟩ | ⟨fault, hf⟩ | ⟨d, hd⟩
  · rw [verdict_of_resolve_error hf, verdict_of_resolve_error (resolve_agrees h ▸ hf)]
  · rw [verdict_of_lacks hf, verdict_of_lacks (hf.congr h)]
  · rw [verdict_of_applies hd, verdict_of_applies (hd.congr h), allIssues_agree h hd]

theorem questions_agree : questions store m = questions store m' := by
  rw [questions, questions, resolve_agrees h]

/-- Agreement is agreement seen from either side. -/
theorem decidingFields_agree : decidingFields store m = decidingFields store m' := by
  have hids : idFields m = idFields m' := by
    rw [idFields, idFields, MetadataVersion.ofMetadata_congr (version_agrees h)]
  have hselected : selected? store m = selected? store m' := by
    rw [selected?, selected?, resolve_agrees h, schemaVersion_agrees h]
  rw [decidingFields, decidingFields, hids, ruleFields, ruleFields, hselected]

end Agreeing

/-! ## Nothing else matters -/

theorem get?_ofPairs_eq_iff {pairs pairs' : List (String × String)} {field : String} :
    (Metadata.ofPairs pairs).get? field = (Metadata.ofPairs pairs').get? field ↔
      ∀ value, IsLast pairs field value ↔ IsLast pairs' field value := by
  rw [Option.ext_iff]
  exact forall_congr' fun value => iff_congr Entries.get?_ofPairs_iff Entries.get?_ofPairs_iff

/-- Metadata that agrees on the deciding fields is judged the same, with
the same error if it is rejected, after the same question to the store.
Which other fields there are, how many, and in which order the fields were
given has no effect: of the pairs that metadata is made of, only the last
ones of the deciding fields count. -/
theorem verdict_depends_on_deciding_fields (store : Store) :
    (∀ m m', AgreeOn (decidingFields store m) m m' →
      decidingFields store m = decidingFields store m' ∧
      ∀ reporter reporter' uploadId uploadId' script script',
        let run := (verify store reporter uploadId m).run script
        let run' := (verify store reporter' uploadId' m').run script'
        run.value = run'.value ∧ run.fetches = run'.fetches) ∧
    (∀ pairs pairs', (∀ field ∈ decidingFields store (.ofPairs pairs), ∀ value,
        IsLast pairs field value ↔ IsLast pairs' field value) →
      ∀ reporter uploadId script script',
        ((verify store reporter uploadId (.ofPairs pairs)).run script).value =
          ((verify store reporter uploadId (.ofPairs pairs')).run script').value) := by
  constructor
  · intro m m' h
    refine ⟨decidingFields_agree h, fun reporter reporter' uploadId uploadId' script script' => ?_⟩
    exact ⟨by rw [value_verify, value_verify, verdict_agrees h],
      by rw [fetches_verify, fetches_verify, questions_agree h]⟩
  · intro pairs pairs' h reporter uploadId script script'
    have hagree : AgreeOn (decidingFields store (.ofPairs pairs)) (.ofPairs pairs)
        (.ofPairs pairs') := fun field hfield => get?_ofPairs_eq_iff.mpr (h field hfield)
    rw [value_verify, value_verify, verdict_agrees hagree]

/-- The second metadata has fields of another version, more fields and
fewer, and is given in another order with earlier values that do not
count. -/
theorem verdict_unmoved_by_other_fields :
    let store : Store := fun _ => ⟨.ok (.versioned [⟨some "2.0", []⟩,
      ⟨some "1.0", [⟨"owner", true, some ["lab"], ""⟩]⟩]), []⟩
    let pairs := [("version", "2"), ("data_stream_id", "celr"), ("data_stream_route", "hl7"),
      ("schema_version", "1"), ("filename", "a.csv"), ("owner", "me"), ("note", "first")]
    let pairs' := [("owner", "lab"), ("schema_version", "1"), ("filename", "a.csv"),
      ("meta_destination_id", "ndlp"), ("owner", "me"), ("data_stream_route", "hl7"),
      ("data_stream_id", "celr"), ("version", "2")]
    let m := Metadata.ofPairs pairs
    let m' := Metadata.ofPairs pairs'
    AgreeOn (decidingFields store m) m m' ∧ m ≠ m' ∧
      verdict store m = .error (.validationFailed [.notAllowed "owner" "me" ["lab"]]) ∧
      ((verify store none "a" m).run []).value = ((verify store none "b" m').run []).value ∧
      ((verify store none "a" m).run []).value = ((verify store none "a" m').run []).value := by
  intro store pairs pairs' m m'
  have hagree : AgreeOn (decidingFields store m) m m' := by decide +kernel
  have hresolve : resolve m = .ok ⟨.v2, "celr", "hl7"⟩ := by decide +kernel
  obtain ⟨hsame, hpairs⟩ := verdict_depends_on_deciding_fields store
  refine ⟨hagree, by decide +kernel, ?_, ?_, ?_⟩
  · rw [verdict_eq_validationFailed_iff]
    refine ⟨by decide, ⟨some "1.0", [⟨"owner", true, some ["lab"], ""⟩]⟩, ?_, by decide +kernel⟩
    exact ⟨_, _, resolve_eq_ok_iff.mp hresolve, rfl, by decide +kernel⟩
  · exact ((hsame m m' hagree).2 none none "a" "b" [] []).1
  · exact hpairs pairs pairs' (fun field hfield => get?_ofPairs_eq_iff.mp (hagree field hfield))
      none "a" [] []

end Verification

end UploadHooks
