import UploadHooks.Proofs.Version.Grammar
import UploadHooks.Upload

/-!
# Supported versions

A supported version is declared by the texts that denote its major number
and nothing behind it (`declared?_eq_some_iff`), which are those that spell
that number and then zeros, however many and however they are written
(`parse_eq_ok_iff_declares`).
-/

namespace UploadHooks

namespace Version

/-- The numbers that a text denotes, if it is a version. -/
def denoted? (text : String) : Option (List Nat) := (parse text).toOption.map components

theorem denoted?_of_spells {text : String} {numbers : List Nat} (h : Spells text numbers) :
    denoted? text = some (dropTrailingZeros numbers) := by
  rw [denoted?, parse_eq_ok_iff.mpr ⟨numbers, h, rfl⟩]
  rfl

theorem dropTrailingZeros_eq_singleton_iff {numbers : List Nat} {k : Nat} (hk : k ≠ 0) :
    dropTrailingZeros numbers = [k] ↔ ∃ zeros, numbers = k :: List.replicate zeros 0 := by
  constructor
  · intro h
    obtain ⟨zeros, hzeros⟩ := exists_eq_append_zeros numbers
    rw [h] at hzeros
    exact ⟨zeros, hzeros⟩
  · rintro ⟨zeros, rfl⟩
    rw [← List.singleton_append, dropTrailingZeros_append_zeros]
    simp [dropTrailingZeros, hk]

theorem denoted?_eq_singleton_iff {text : String} {k : Nat} (hk : k ≠ 0) :
    denoted? text = some [k] ↔ ∃ zeros, Spells text (k :: List.replicate zeros 0) := by
  constructor
  · intro h
    rw [denoted?, Option.map_eq_some_iff] at h
    obtain ⟨v, hv, hcomponents⟩ := h
    obtain ⟨numbers, hspells, rfl⟩ := parse_eq_ok_iff.mp (toOption_eq_some_iff.mp hv)
    obtain ⟨zeros, rfl⟩ := (dropTrailingZeros_eq_singleton_iff hk).mp hcomponents
    exact ⟨zeros, hspells⟩
  · rintro ⟨zeros, hspells⟩
    rw [denoted?_of_spells hspells, (dropTrailingZeros_eq_singleton_iff hk).mpr ⟨zeros, rfl⟩]

/-- The supported version that a text declares. -/
def declared? (text : String) : Option MetadataVersion := (MetadataVersion.parse text).toOption

theorem major_ne_zero (version : MetadataVersion) : version.major ≠ 0 := by
  cases version <;> decide

theorem denotes_iff {v : Version} (version : MetadataVersion) :
    MetadataVersion.denotes v version = true ↔ v.components = [version.major] := by
  have hparse : parse version.text = .ok ⟨version.text, [version.major]⟩ := by
    cases version <;> decide
  rw [MetadataVersion.denotes, hparse]
  simp only [same, beq_iff_eq]
  exact eq_comm

/-- A version is declared by the texts that denote its major number. -/
theorem declared?_eq_some_iff {text : String} {version : MetadataVersion} :
    declared? text = some version ↔ denoted? text = some [version.major] := by
  rw [declared?, denoted?, MetadataVersion.parse]
  cases parse text with
  | error fault => simp [Except.toOption]
  | ok v =>
      have hdistinct : v.components = [MetadataVersion.v1.major] →
          v.components ≠ [MetadataVersion.v2.major] := fun h h' => by
        rw [h] at h'
        exact absurd h' (by decide)
      simp only [Except.toOption, Option.map_some, Option.some.injEq, MetadataVersion.supported,
        List.find?_cons, List.find?_nil]
      by_cases h1 : v.components = [MetadataVersion.v1.major]
      · rw [(denotes_iff .v1).mpr h1]
        cases version with
        | v1 => simp [h1]
        | v2 => simp [hdistinct h1]
      · have hnot1 : MetadataVersion.denotes v .v1 = false := by
          rw [← Bool.not_eq_true, denotes_iff]
          exact h1
        rw [hnot1]
        by_cases h2 : v.components = [MetadataVersion.v2.major]
        · rw [(denotes_iff .v2).mpr h2]
          cases version with
          | v1 => simp [h1]
          | v2 => simp [h2]
        · have hnot2 : MetadataVersion.denotes v .v2 = false := by
            rw [← Bool.not_eq_true, denotes_iff]
            exact h2
          rw [hnot2]
          cases version with
          | v1 => simp [h1]
          | v2 => simp [h2]

/-- The text is the major number of the version and zeros behind it. -/
def Declares (text : String) (version : MetadataVersion) : Prop :=
  ∃ zeros, Spells text (version.major :: List.replicate zeros 0)

theorem parse_eq_ok_iff_declares {text : String} {version : MetadataVersion} :
    MetadataVersion.parse text = .ok version ↔ Declares text version := by
  rw [← toOption_eq_some_iff, ← declared?, declared?_eq_some_iff,
    denoted?_eq_singleton_iff (major_ne_zero version)]
  rfl

/-- The first number of such a text is the major number. -/
theorem Declares.major {text : String} {version : MetadataVersion} (h : Declares text version) :
    ∃ v, parse text = .ok v ∧ v.major = version.major := by
  obtain ⟨zeros, hspells⟩ := h
  refine ⟨_, parse_eq_ok_iff.mpr ⟨_, hspells, rfl⟩, ?_⟩
  rw [major_eq_component, component_mk]
  rfl

theorem declares_iff {text : String} :
    (∃ version, Declares text version) ↔
      ∃ major zeros, (major = 1 ∨ major = 2) ∧ Spells text (major :: List.replicate zeros 0) := by
  constructor
  · rintro ⟨version, zeros, hspells⟩
    refine ⟨version.major, zeros, ?_, hspells⟩
    cases version with
    | v1 => exact .inl rfl
    | v2 => exact .inr rfl
  · rintro ⟨major, zeros, rfl | rfl, hspells⟩
    · exact ⟨.v1, zeros, hspells⟩
    · exact ⟨.v2, zeros, hspells⟩

end Version

end UploadHooks
