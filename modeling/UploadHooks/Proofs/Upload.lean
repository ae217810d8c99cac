import UploadHooks.Upload

/-!
# When metadata resolves

`Resolves` says which upload metadata stands for, field by field. The
three equivalences below it say when resolving answers that upload, when
it refuses the declared version, and when it names missing fields: the
version is looked at first, and the fields that are named are exactly the
absent ones. No field but these three has any effect (`resolve_congr`).
-/

namespace UploadHooks

/-- The metadata has the version of the upload, and both ids under it. -/
structure Resolves (m : Metadata) (upload : ResolvedUpload) : Prop where
  version : MetadataVersion.ofMetadata m = .ok upload.version
  useCase : m.get? upload.version.idFields.1 = some upload.useCase
  category : m.get? upload.version.idFields.2 = some upload.useCaseCategory

/-- The id fields of a version that the metadata does not have. -/
def absentIds (m : Metadata) (version : MetadataVersion) : List String :=
  [version.idFields.1, version.idFields.2].filter (!m.contains ·)

theorem MetadataVersion.parse_error {declared : String} {fault : ResolveFault}
    (h : parse declared = .error fault) : fault = .unsupportedVersion declared := by
  unfold parse at h
  split at h
  · cases h
    rfl
  · split at h
    · cases h
    · cases h
      rfl

/-- A declaration that denotes no supported version is the only fault that
a version can have. -/
theorem MetadataVersion.ofMetadata_error_iff {m : Metadata} {fault : ResolveFault} :
    ofMetadata m = .error fault ↔ ∃ declared, m.get? versionField = some declared ∧
      (∀ version, parse declared ≠ .ok version) ∧ fault = .unsupportedVersion declared := by
  rw [ofMetadata]
  cases hv : m.get? versionField with
  | none => simp
  | some declared =>
      cases hp : parse declared with
      | ok version => simp [hp]
      | error fault' =>
          obtain rfl := parse_error hp
          have hnot : ∀ version, parse declared ≠ .ok version := fun version h => by
            rw [hp] at h
            cases h
          constructor
          · intro h
            exact ⟨declared, rfl, hnot, Except.error.inj (h.symm.trans hp)⟩
          · rintro ⟨declared', hd, -, rfl⟩
            obtain rfl := Option.some.inj hd
            exact hp

section Resolve

variable {m : Metadata}

theorem resolve_of_version {version : MetadataVersion}
    (h : MetadataVersion.ofMetadata m = .ok version) :
    resolve m =
      match m.get? version.idFields.1, m.get? version.idFields.2 with
      | some useCase, some category => .ok ⟨version, useCase, category⟩
      | _, _ => .error (.missingFields (absentIds m version)) := by
  rw [resolve, h]
  rfl

theorem absentIds_eq_nil_iff {version : MetadataVersion} : absentIds m version = [] ↔
    m.contains version.idFields.1 = true ∧ m.contains version.idFields.2 = true := by
  simp [absentIds]

theorem mem_absentIds_iff {version : MetadataVersion} {field : String} :
    field ∈ absentIds m version ↔
      (field = version.idFields.1 ∨ field = version.idFields.2) ∧ m.get? field = none := by
  simp [absentIds, Metadata.contains]

theorem resolve_eq_ok_iff {upload : ResolvedUpload} :
    resolve m = .ok upload ↔ Resolves m upload := by
  constructor
  · intro h
    cases hv : MetadataVersion.ofMetadata m with
    | error fault => simp [resolve, hv] at h
    | ok version =>
        rw [resolve_of_version hv] at h
        split at h
        · next useCase category huse hcat =>
          cases h
          exact ⟨hv, huse, hcat⟩
        · cases h
  · intro h
    rw [resolve_of_version h.version, h.useCase, h.category]

theorem resolve_eq_unsupportedVersion_iff {declared : String} :
    resolve m = .error (.unsupportedVersion declared) ↔
      m.get? versionField = some declared ∧
        ∀ version, MetadataVersion.parse declared ≠ .ok version := by
  cases hv : MetadataVersion.ofMetadata m with
  | error fault =>
      obtain ⟨text, htext, hnot, rfl⟩ := MetadataVersion.ofMetadata_error_iff.mp hv
      rw [resolve, hv, htext]
      simp only [Except.error.injEq, ResolveFault.unsupportedVersion.injEq, Option.some.injEq]
      constructor
      · rintro rfl
        exact ⟨rfl, hnot⟩
      · exact fun h => h.1
  | ok version =>
      constructor
      · intro h
        rw [resolve_of_version hv] at h
        split at h <;> cases h
      · rintro ⟨hd, hnot⟩
        rw [MetadataVersion.ofMetadata, hd] at hv
        exact absurd hv (hnot version)

theorem resolve_eq_missingFields_iff {missing : List String} :
    resolve m = .error (.missingFields missing) ↔ ∃ version,
      MetadataVersion.ofMetadata m = .ok version ∧ missing = absentIds m version ∧
        missing ≠ [] := by
  cases hv : MetadataVersion.ofMetadata m with
  | error fault =>
      obtain ⟨text, -, -, rfl⟩ := MetadataVersion.ofMetadata_error_iff.mp hv
      simp [resolve, hv]
  | ok version =>
      have hnil : absentIds m version = [] ↔ _ := absentIds_eq_nil_iff
      rw [Metadata.contains, Metadata.contains] at hnil
      simp only [resolve_of_version hv, Except.ok.injEq, exists_eq_left']
      cases huse : m.get? version.idFields.1 with
      | none =>
          have hne : absentIds m version ≠ [] := mt hnil.mp (by simp [huse])
          simp only [Except.error.injEq, ResolveFault.missingFields.injEq]
          exact ⟨fun h => ⟨h.symm, h ▸ hne⟩, fun h => h.1.symm⟩
      | some useCase =>
          cases hcat : m.get? version.idFields.2 with
          | none =>
              have hne : absentIds m version ≠ [] := mt hnil.mp (by simp [hcat])
              simp only [Except.error.injEq, ResolveFault.missingFields.injEq]
              exact ⟨fun h => ⟨h.symm, h ▸ hne⟩, fun h => h.1.symm⟩
          | some category =>
              have hempty : absentIds m version = [] := hnil.mpr (by simp [huse, hcat])
              simp [hempty]

/-! ## What is looked at -/

theorem MetadataVersion.ofMetadata_congr {m' : Metadata}
    (h : m.get? versionField = m'.get? versionField) : ofMetadata m = ofMetadata m' := by
  rw [ofMetadata, ofMetadata, h]

/-- The declared version, and the two ids that it names. -/
theorem resolve_congr {m' : Metadata} (hversion : m.get? versionField = m'.get? versionField)
    (hids : ∀ version, MetadataVersion.ofMetadata m = .ok version →
      m.get? version.idFields.1 = m'.get? version.idFields.1 ∧
        m.get? version.idFields.2 = m'.get? version.idFields.2) : resolve m = resolve m' := by
  have hsame := MetadataVersion.ofMetadata_congr hversion
  cases hv : MetadataVersion.ofMetadata m with
  | error fault => rw [resolve, resolve, ← hsame, hv]
  | ok version =>
      obtain ⟨huse, hcategory⟩ := hids version hv
      have habsent : absentIds m version = absentIds m' version := by
        simp [absentIds, Metadata.contains, List.filter_cons, huse, hcategory]
      rw [resolve_of_version hv, resolve_of_version (hsame.symm.trans hv), huse, hcategory, habsent]

end Resolve

end UploadHooks
