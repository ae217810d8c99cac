import UploadHooks.Proofs.Upload
import UploadHooks.Proofs.Version.Supported
import UploadHooks.Schema.Store

/-!
# What resolving an upload comes to

One version governs metadata: the declared one, if the text spells its major
number and zeros behind it, and the oldest one if nothing is declared. A
text that spells no supported version is refused as it is written, before
any other field is looked at. Under the version that governs it the metadata
either has both ids, which are then taken as they are, or the fault names
those that are absent.

Looking for what is absent and looking up the ids could be two steps with
something left over between them. `resolveInSteps` has a place for that, and
whatever is put there never comes out (`resolveInSteps_eq`).
-/

namespace UploadHooks

open Version (Declares Spells)

/-- The version under which the metadata is read. -/
inductive Governs (m : Metadata) (version : MetadataVersion) : Prop
  | undeclared (habsent : m.get? versionField = none) (holdest : version = .v1)
  | declared (text : String) (htext : m.get? versionField = some text)
      (hdeclares : Declares text version)

/-- Absent ids are looked for first, and the ids are looked up when there are
none; `leftOver` is the answer when an id that is not absent is not found
either. -/
def resolveInSteps (leftOver : MetadataVersion → Except ResolveFault ResolvedUpload)
    (m : Metadata) : Except ResolveFault ResolvedUpload :=
  match MetadataVersion.ofMetadata m with
  | .error fault => .error fault
  | .ok version =>
    if absentIds m version ≠ [] then .error (.missingFields (absentIds m version))
    else
      match m.get? version.idFields.1, m.get? version.idFields.2 with
      | some useCase, some category => .ok ⟨version, useCase, category⟩
      | _, _ => leftOver version

section Outcome

variable {m : Metadata} {version : MetadataVersion}

theorem ofMetadata_eq_ok_iff : MetadataVersion.ofMetadata m = .ok version ↔ Governs m version := by
  rw [MetadataVersion.ofMetadata]
  cases htext : m.get? versionField with
  | none =>
      constructor
      · intro h
        exact .undeclared htext (Except.ok.inj h).symm
      · rintro (⟨-, rfl⟩ | ⟨text, hsome, -⟩)
        · rfl
        · rw [htext] at hsome
          cases hsome
  | some declared =>
      constructor
      · intro h
        exact .declared declared htext (Version.parse_eq_ok_iff_declares.mp h)
      · rintro (⟨habsent, -⟩ | ⟨text, hsome, hdeclares⟩)
        · rw [htext] at habsent
          cases habsent
        · obtain rfl := Option.some.inj (htext.symm.trans hsome)
          exact Version.parse_eq_ok_iff_declares.mpr hdeclares

/-- If no id is absent, both are found. -/
theorem resolveInSteps_eq (leftOver : MetadataVersion → Except ResolveFault ResolvedUpload)
    (m : Metadata) : resolveInSteps leftOver m = resolve m := by
  unfold resolveInSteps
  split
  · next fault hfault => rw [resolve, hfault]
  · next version hversion =>
    rw [resolve_of_version hversion]
    split
    · next habsent =>
      split
      · next useCase category huse hcategory =>
        refine absurd (absentIds_eq_nil_iff.mpr ⟨?_, ?_⟩) habsent
        · rw [Metadata.contains, huse, Option.isSome_some]
        · rw [Metadata.contains, hcategory, Option.isSome_some]
      · rfl
    · next hnone =>
      obtain ⟨huse, hcategory⟩ := absentIds_eq_nil_iff.mp (not_not.mp hnone)
      rw [Metadata.contains] at huse hcategory
      obtain ⟨useCase, huse⟩ := Option.isSome_iff_exists.mp huse
      obtain ⟨category, hcategory⟩ := Option.isSome_iff_exists.mp hcategory
      rw [huse, hcategory]

end Outcome

/-- Resolving refuses exactly the declared texts that are not 1 or 2 with
zeros behind it. Otherwise one version governs the metadata, 1.0 if none is
declared. The fault then names those of its two id fields that are absent,
in their order, and if none is absent both values are answered as they are;
nothing else can come out. The key of the schema has the first number of the
declared text, and nothing but the version and its two ids counts. -/
theorem resolve_decided_by_version_and_ids (m : Metadata) :
    (∀ declared, resolve m = .error (.unsupportedVersion declared) ↔
      m.get? "version" = some declared ∧ ¬ ∃ major zeros, (major = 1 ∨ major = 2) ∧
        Spells declared (major :: List.replicate zeros 0)) ∧
    (∀ missing, resolve m = .error (.missingFields missing) ↔
      ∃ version, Governs m version ∧ missing ≠ [] ∧
        missing = [version.idFields.1, version.idFields.2].filter fun f => (m.get? f).isNone) ∧
    (∀ upload, resolve m = .ok upload ↔ Governs m upload.version ∧
      m.get? upload.version.idFields.1 = some upload.useCase ∧
      m.get? upload.version.idFields.2 = some upload.useCaseCategory) ∧
    (MetadataVersion.v1.text = "1.0" ∧
      MetadataVersion.v1.idFields = ("meta_destination_id", "meta_ext_event")) ∧
    (MetadataVersion.v2.text = "2.0" ∧
      MetadataVersion.v2.idFields = ("data_stream_id", "data_stream_route")) ∧
    (∀ leftOver, resolveInSteps leftOver m = resolve m) ∧
    (∀ upload declared, resolve m = .ok upload → m.get? versionField = some declared →
      ∃ v, Version.parse declared = .ok v ∧ v.major = (Schema.Key.forUpload upload).major) ∧
    (∀ m', m.get? versionField = m'.get? versionField →
      (∀ version, Governs m version → m.get? version.idFields.1 = m'.get? version.idFields.1 ∧
        m.get? version.idFields.2 = m'.get? version.idFields.2) → resolve m = resolve m') := by
  refine ⟨fun declared => ?_, fun missing => ?_, fun upload => ?_, ⟨rfl, rfl⟩, ⟨rfl, rfl⟩,
    fun leftOver => resolveInSteps_eq leftOver m, fun upload declared hresolve hdeclared => ?_,
    fun m' hversion hids => ?_⟩
  · rw [resolve_eq_unsupportedVersion_iff, ← Version.declares_iff]
    simp only [ne_eq, Version.parse_eq_ok_iff_declares, not_exists]
    rfl
  · rw [resolve_eq_missingFields_iff]
    refine exists_congr fun version => ?_
    have habsent : absentIds m version =
        [version.idFields.1, version.idFields.2].filter fun f => (m.get? f).isNone := by
      simp [absentIds, Metadata.contains]
    rw [ofMetadata_eq_ok_iff, habsent, and_comm (a := missing = _)]
  · rw [resolve_eq_ok_iff, ← ofMetadata_eq_ok_iff]
    exact ⟨fun h => ⟨h.version, h.useCase, h.category⟩, fun h => ⟨h.1, h.2.1, h.2.2⟩⟩
  · have hgoverns := ofMetadata_eq_ok_iff.mp (resolve_eq_ok_iff.mp hresolve).version
    rcases hgoverns with ⟨habsent, -⟩ | ⟨text, htext, hdeclares⟩
    · rw [habsent] at hdeclared
      cases hdeclared
    · obtain rfl := Option.some.inj (htext.symm.trans hdeclared)
      exact hdeclares.major
  · exact resolve_congr hversion fun version hv => hids version (ofMetadata_eq_ok_iff.mp hv)

end UploadHooks
