import UploadHooks.Proofs.Metadata.Member
import UploadHooks.Proofs.Upload
import UploadHooks.Proofs.Version.Literal
import UploadHooks.Verification

/-!
# Versions without their quotes

A version may be a JSON number as well, and then it can be given without
quotes. Metadata holds the JSON text of a number, which need not be the
literal it was read from: the number is a 64-bit one, whole or binary, and
its text is the shortest one. So dropping the quotes puts another text in
the same field (`Metadata.ofJson_fill`), and whether that matters is a
question about the two texts:

- resolving changes exactly if they do not declare the same supported
  version (`outcome_eq_iff`);
- the definition changes for some configuration exactly if they do not
  denote the same numbers (`picksAlike_iff`).

`Unquoted` is what is known of the text. A whole number keeps its own, and
a decimal that is not too long loses its trailing zeros, so that `1.10`
denotes what `1.1` does. A supported version stays what it is however many
zeros it has; a longer decimal may be rounded to one.
-/

namespace UploadHooks

namespace Verification

open Json (EndsString IsNumber OpenObject Stands)
open Numeric (max64 valueOf)
open Version (declared? denoted?)

/-! ## What may change -/

/-- What resolving ends in, with the kind of a fault only. -/
inductive Outcome where
  | resolved (upload : ResolvedUpload)
  | unsupportedVersion
  | missingFields
  deriving DecidableEq

def outcome (m : Metadata) : Outcome :=
  match resolve m with
  | .ok upload => .resolved upload
  | .error (.unsupportedVersion _) => .unsupportedVersion
  | .error (.missingFields _) => .missingFields

/-- Of every configuration the same definition is picked, or none. -/
def PicksAlike (m m' : Metadata) : Prop :=
  ∀ config : Schema.Config, (config.select (m.get? schemaVersionField)).toOption =
    (config.select (m'.get? schemaVersionField)).toOption

/-! ### Resolving -/

section Resolving

variable {m m' : Metadata} {text text' : String}

theorem declared?_eq_none_iff :
    declared? text = none ↔ ∀ version, MetadataVersion.parse text ≠ .ok version := by
  rw [declared?]
  cases MetadataVersion.parse text <;> simp [Except.toOption]

theorem ofMetadata_of_declared? {version : MetadataVersion}
    (hfield : m.get? versionField = some text) (h : declared? text = some version) :
    MetadataVersion.ofMetadata m = .ok version := by
  have hparse : MetadataVersion.parse text = .ok version := by
    rw [declared?] at h
    cases hparse : MetadataVersion.parse text with
    | error fault => simp [hparse, Except.toOption] at h
    | ok version' => simpa [hparse, Except.toOption] using h
  rw [MetadataVersion.ofMetadata, hfield]
  exact hparse

theorem outcome_eq_unsupportedVersion_iff (hfield : m.get? versionField = some text) :
    outcome m = .unsupportedVersion ↔ declared? text = none := by
  rw [declared?_eq_none_iff]
  constructor
  · intro h
    rw [outcome] at h
    split at h
    · cases h
    · next declared hresolve =>
      obtain ⟨hdeclared, hnot⟩ := resolve_eq_unsupportedVersion_iff.mp hresolve
      obtain rfl := Option.some.inj (hfield.symm.trans hdeclared)
      exact hnot
    · cases h
  · intro h
    rw [outcome, resolve_eq_unsupportedVersion_iff.mpr ⟨hfield, h⟩]

theorem idFields_ne_versionField (version : MetadataVersion) :
    version.idFields.1 ≠ versionField ∧ version.idFields.2 ≠ versionField := by
  cases version <;> decide

/-- With all other fields the same, resolving depends on the version that is
declared. -/
theorem outcome_eq_iff (h : Metadata.DifferIn versionField text text' m m')
    (hkept : ∀ version, declared? text = some version → declared? text' = some version) :
    outcome m = outcome m' ↔ declared? text' = declared? text := by
  cases hdeclared : declared? text with
  | none =>
      rw [(outcome_eq_unsupportedVersion_iff h.left).mpr hdeclared, eq_comm,
        outcome_eq_unsupportedVersion_iff h.right]
  | some version =>
      refine iff_of_true ?_ (hkept version hdeclared)
      have hversion := ofMetadata_of_declared? h.left hdeclared
      have hversion' := ofMetadata_of_declared? h.right (hkept version hdeclared)
      obtain ⟨huse, hcategory⟩ := idFields_ne_versionField version
      have habsent : absentIds m version = absentIds m' version := by
        simp [absentIds, Metadata.contains, List.filter_cons, h.elsewhere _ huse,
          h.elsewhere _ hcategory]
      rw [outcome, outcome, resolve_of_version hversion, resolve_of_version hversion', habsent,
        h.elsewhere _ huse, h.elsewhere _ hcategory]

theorem outcome_eq_of_schemaVersion (h : Metadata.DifferIn schemaVersionField text text' m m') :
    outcome m = outcome m' := by
  have hids : ∀ version : MetadataVersion,
      version.idFields.1 ≠ schemaVersionField ∧ version.idFields.2 ≠ schemaVersionField := by
    intro version
    cases version <;> decide
  rw [outcome, outcome, resolve_congr (h.elsewhere _ (by decide)) fun version _ =>
    ⟨h.elsewhere _ (hids version).1, h.elsewhere _ (hids version).2⟩]

end Resolving

/-! ### Selecting -/

section Selecting

open Schema (Config Definition findVersion?)

variable {m m' : Metadata} {text text' : String}

theorem findVersion?_congr (h : denoted? text' = denoted? text) (definitions : List Definition) :
    findVersion? text' definitions = findVersion? text definitions := by
  rw [denoted?, denoted?] at h
  rw [findVersion?, findVersion?]
  cases hread : Version.parse text with
  | error fault =>
      cases hread' : Version.parse text' with
      | error fault' => rfl
      | ok v' => simp [hread, hread', Except.toOption] at h
  | ok v =>
      cases hread' : Version.parse text' with
      | error fault' => simp [hread, hread', Except.toOption] at h
      | ok v' =>
          have hsame : v'.components = v.components := by
            simpa [hread, hread', Except.toOption] using h
          have hanswers : Definition.answers v' = Definition.answers v := by
            funext d
            rw [Definition.answers, Definition.answers]
            cases d.parsedVersion? with
            | none => rfl
            | some w => simp only [Version.same, hsame]
          simp only [hanswers]

/-- The definition that has just the version of the text. -/
def definitionOf (text : String) : Definition := ⟨some text, []⟩

theorem findVersion?_definitionOf (hversion : denoted? text ≠ none) :
    findVersion? text' [definitionOf text] = some (definitionOf text) ↔
      denoted? text' = denoted? text := by
  rw [denoted?] at hversion ⊢
  rw [denoted?, findVersion?]
  cases hread : Version.parse text with
  | error fault => simp [hread, Except.toOption] at hversion
  | ok v =>
      have hparsed : (definitionOf text).parsedVersion? = some v := by
        rw [definitionOf, Definition.parsedVersion?, Option.bind_some, hread]
        rfl
      cases Version.parse text' with
      | error fault => simp [Except.toOption]
      | ok v' =>
          simp only [Except.toOption, Option.map_some, Option.some.injEq, List.find?_cons,
            List.find?_nil, Definition.answers, hparsed, Version.same]
          cases hsame : v.components == v'.components with
          | false =>
              have hne : v'.components ≠ v.components := fun heq => by simp [heq] at hsame
              simp [hne]
          | true => simp [(beq_iff_eq.mp hsame).symm]

/-- The definition depends on the numbers that the requested version
denotes. -/
theorem picksAlike_iff (h : Metadata.DifferIn schemaVersionField text text' m m')
    (hversion : denoted? text ≠ none) :
    PicksAlike m m' ↔ denoted? text' = denoted? text := by
  have hselect (requested : String) (definitions : List Definition) :
      ((Config.versioned definitions).select (some requested)).toOption =
        findVersion? requested definitions := by
    rw [Config.select]
    cases findVersion? requested definitions <;> rfl
  rw [PicksAlike, h.left, h.right]
  constructor
  · intro h
    have hown := h (.versioned [definitionOf text])
    rw [hselect, hselect, (findVersion?_definitionOf hversion).mpr rfl] at hown
    exact (findVersion?_definitionOf hversion).mp hown.symm
  · intro h config
    cases config with
    | single d => rfl
    | versioned definitions => rw [hselect, hselect, findVersion?_congr h]

end Selecting

/-! ## The text of the number -/

/-- The literal is a decimal of at most fifteen digits, leading zeros apart,
that is zero or not below `0.00001`. Its fraction ends in that many zeros. -/
structure IsShort (literal : String) (whole fraction : List Char) (zeros : Nat) : Prop where
  text : literal.toList = whole ++ '.' :: (fraction ++ List.replicate zeros '0')
  last : fraction.getLast? ≠ some '0'
  digits : valueOf (whole ++ fraction) * 10 ^ zeros < 10 ^ 15
  size : valueOf (whole ++ fraction) = 0 ∨
    1 / 10 ^ 5 ≤ (valueOf (whole ++ fraction) : ℚ) / 10 ^ fraction.length

/-- What stays behind the point. -/
def keptFraction (fraction : List Char) : List Char := if fraction = [] then ['0'] else fraction

/-- The number that a version is read as when it has no quotes, and what is
known of its text. -/
structure Unquoted (literal : String) (n : Json.Number) : Prop where
  reads : Stands literal.toList (.number n) 0
  supported : ∀ version, declared? literal = some version → declared? n.text = some version
  whole : '.' ∉ literal.toList → n.text = literal
  short : ∀ whole fraction zeros, IsShort literal whole fraction zeros →
    n.text = String.ofList (whole ++ '.' :: keptFraction fraction)

section Text

variable {literal : String} {whole fraction : List Char}

theorem IsShort.not_isWholePart {zeros : ℕ} (h : IsShort literal whole fraction zeros) :
    ¬ Json.IsWholePart literal.toList := fun hwhole => by
  have hpoint := Numeric.point_not_mem hwhole.allDigits
  rw [h.text] at hpoint
  exact absurd (by simp) hpoint

/-- There is one point, so a decimal is taken apart in one way. -/
theorem IsShort.parts {w f : List Char} {zeros : ℕ} (h : IsShort literal w f zeros)
    (htext : literal.toList = whole ++ '.' :: fraction) (hwhole : Numeric.AllDigits whole)
    (hfraction : Numeric.AllDigits fraction) :
    whole = w ∧ fraction = f ++ List.replicate zeros '0' := by
  have hsame := h.text
  rw [htext, List.append_cons_inj_of_notMem (Numeric.point_not_mem hwhole)
    (Numeric.point_not_mem hfraction)] at hsame
  obtain ⟨rfl, -, rfl⟩ := hsame
  exact ⟨rfl, rfl⟩

theorem unquoted_of_whole (hwhole : Json.IsWholePart literal.toList)
    (hfits : valueOf literal.toList ≤ max64) :
    Unquoted literal (.integer (valueOf literal.toList)) := by
  have htext : (Json.Number.integer (valueOf literal.toList)).text = literal := by
    rw [Json.Number.text, hwhole.text, String.ofList_toList]
  exact ⟨hwhole.stands hfits, fun version h => by rwa [htext], fun _ => htext,
    fun w f zeros h => absurd hwhole h.not_isWholePart⟩

/-- A supported version is a digit with zeros behind the point, of which as
many as fit are read. -/
theorem declared?_text_of_supported (htext : literal.toList = whole ++ '.' :: fraction)
    (hwhole : Json.IsWholePart whole) (hfraction : Numeric.AllDigits fraction)
    (hne : fraction ≠ []) (hwholeFits : valueOf whole ≤ max64)
    (hfractionFits : valueOf fraction ≤ max64) {front more : List Char}
    (hsplit : fraction = front ++ more) (hfits : valueOf (whole ++ front) ≤ max64)
    {x : Numeric.Binary64}
    (hscaled : Json.Number.ofScaled false (valueOf (whole ++ front)) (-front.length) =
      some (.float x)) {version : MetadataVersion} (h : declared? literal = some version) :
    declared? (Json.Number.float x).text = some version := by
  rw [Version.declared?_eq_some_iff, Version.denoted?_decimal htext hwhole hfraction hne hwholeFits
    hfractionFits, Option.some.injEq,
    Version.dropTrailingZeros_pair_eq_singleton_iff (Version.major_ne_zero version)] at h
  obtain ⟨hmajor, hzero⟩ := h
  obtain ⟨k, rfl⟩ : ∃ k, front = List.replicate k '0' := by
    have hfront : valueOf front = 0 := by
      rw [hsplit, Numeric.valueOf_append] at hzero
      have hpow := Nat.pow_pos (n := more.length) (by decide : 0 < 10)
      rcases Nat.mul_eq_zero.mp (Nat.eq_zero_of_add_eq_zero_right hzero) with h | h
      · exact h
      · omega
    exact Numeric.eq_zeros_of_valueOf_eq_zero
      (fun c hc => hfraction c (hsplit ▸ List.mem_append_left _ hc)) hfront
  rw [Numeric.valueOf_append_zeros, hmajor] at hfits hscaled
  rw [List.length_replicate] at hscaled
  have hdigit : version.major % 10 ≠ 0 ∧ version.major < 10 := by cases version <;> decide
  obtain ⟨y, hread, hy⟩ := Json.ofScaled_digit hdigit.1 hdigit.2 hfits
  obtain rfl := Json.Number.float.inj (Option.some.inj (hread.symm.trans hscaled))
  rw [Json.Number.text, Json.Number.chars, hy]
  cases version <;> decide

theorem exists_unquoted_decimal (htext : literal.toList = whole ++ '.' :: fraction)
    (hwhole : Json.IsWholePart whole) (hfraction : Numeric.AllDigits fraction)
    (hne : fraction ≠ []) (hwholeFits : valueOf whole ≤ max64)
    (hfractionFits : valueOf fraction ≤ max64) : ∃ n, Unquoted literal n := by
  obtain ⟨front, more, x, hsplit, hfits, hall, hscaled, hstands⟩ :=
    Json.exists_stands_decimal hwhole hwholeFits hfraction hne
  refine ⟨.float x, by rwa [htext], fun version h => ?_, fun hpoint => ?_, fun w f zeros h => ?_⟩
  · exact declared?_text_of_supported htext hwhole hfraction hne hwholeFits hfractionFits hsplit
      hfits hscaled h
  · rw [htext] at hpoint
    exact absurd (by simp) hpoint
  · obtain ⟨rfl, rfl⟩ := h.parts htext hwhole.allDigits hfraction
    have hdigits : valueOf (whole ++ (f ++ List.replicate zeros '0')) =
        valueOf (whole ++ f) * 10 ^ zeros := by
      rw [← List.append_assoc, Numeric.valueOf_append_zeros]
    obtain rfl := hall (by rw [hdigits]; exact h.digits.le.trans (by decide))
    rw [List.append_nil] at hsplit
    rw [← hsplit, hdigits, List.length_append, List.length_replicate] at hscaled
    obtain ⟨y, hread, hy⟩ := Json.exists_ofScaled_text hwhole
      (fun c hc => hfraction c (List.mem_append_left _ hc)) h.last h.digits h.size
    obtain rfl := Json.Number.float.inj (Option.some.inj (hread.symm.trans hscaled))
    rw [Json.Number.text, Json.Number.chars, hy, keptFraction]

theorem exists_unquoted {v : Version} (hnumber : IsNumber literal.toList)
    (hversion : Version.parse literal = .ok v) : ∃ n, Unquoted literal n := by
  obtain ⟨numbers, hspells, -⟩ := Version.parse_eq_ok_iff.mp hversion
  cases Version.literal_cases hnumber hspells with
  | whole hwhole hfits => exact ⟨_, unquoted_of_whole hwhole hfits⟩
  | decimal w f htext hwhole hfraction hne hwholeFits hfractionFits =>
      exact exists_unquoted_decimal htext hwhole hfraction hne hwholeFits hfractionFits

end Text

/-! ## Dropping the quotes -/

section Dropping

variable {literal : String} {whole fraction : List Char} {zeros : Nat} {n : Json.Number}

theorem keptFraction_spec (hfraction : Numeric.AllDigits fraction) :
    keptFraction fraction ≠ [] ∧ Numeric.AllDigits (keptFraction fraction) ∧
      valueOf (keptFraction fraction) = valueOf fraction := by
  rw [keptFraction]
  split
  · next hnil =>
    subst hnil
    exact ⟨List.cons_ne_nil _ _, List.forall_mem_singleton.mpr rfl, rfl⟩
  · next hne => exact ⟨hne, hfraction, rfl⟩

/-- Without its trailing zeros a short decimal declares what it did, and
denotes something else unless there were none to lose. -/
theorem Unquoted.short_denotes (hn : Unquoted literal n) (hliteral : Version.Literal literal)
    (h : IsShort literal whole fraction zeros) :
    declared? n.text = declared? literal ∧
      (denoted? n.text = denoted? literal ↔ fraction = [] ∨ zeros = 0) := by
  cases hliteral with
  | whole hwhole hfits => exact absurd hwhole h.not_isWholePart
  | decimal w f htext hwhole hfraction hne hwholeFits hfractionFits =>
      obtain ⟨rfl, rfl⟩ := h.parts htext hwhole.allDigits hfraction
      have hfront : Numeric.AllDigits fraction := fun c hc =>
        hfraction c (List.mem_append_left _ hc)
      obtain ⟨hkeptNe, hkept, hvalue⟩ := keptFraction_spec hfront
      have hpow := Nat.pow_pos (n := zeros) (by decide : 0 < 10)
      have hfits : valueOf (keptFraction fraction) ≤ max64 := by
        rw [hvalue]
        rw [Numeric.valueOf_append_zeros] at hfractionFits
        exact (Nat.le_mul_of_pos_right _ hpow).trans hfractionFits
      have hquoted := Version.denoted?_decimal htext hwhole hfraction hne hwholeFits hfractionFits
      have hunquoted : denoted? n.text = _ := Version.denoted?_decimal
        (by rw [hn.short _ _ _ h, String.toList_ofList]) hwhole hkept hkeptNe hwholeFits hfits
      rw [Numeric.valueOf_append_zeros] at hquoted
      rw [hvalue] at hunquoted
      constructor
      · refine Option.ext fun version => ?_
        rw [Version.declared?_eq_some_iff, Version.declared?_eq_some_iff, hquoted, hunquoted,
          Option.some.injEq, Option.some.injEq,
          Version.dropTrailingZeros_pair_eq_singleton_iff (Version.major_ne_zero version),
          Version.dropTrailingZeros_pair_eq_singleton_iff (Version.major_ne_zero version),
          Nat.mul_eq_zero, or_iff_left hpow.ne']
      · rw [hquoted, hunquoted, Option.some.injEq, Version.dropTrailingZeros_pair_inj]
        exact Numeric.valueOf_eq_mul_pow_iff hfront h.last

/-- A version that is a number literal as well stands for the text of that
number once its quotes are dropped. Any object in which it is given as a
string, however that is written, is one with the place of its value left
open, and dropping the quotes fills that place with the literal itself.

As the declared version it makes a difference exactly if the text does not
declare the same supported version, which a whole number, a supported
version and a short decimal do. As the requested one it makes a difference
for some configuration exactly if the text does not denote the same
numbers, which a whole number does, and of the short decimals those whose
fraction is zero or ends in no zero. -/
theorem dropped_quotes_matter_iff {v : Version} (hnumber : IsNumber literal.toList)
    (hversion : Version.parse literal = .ok v) :
    (∀ (name s : String) (members : List (String × Json.Value)),
      Json.Value.ofText s = .ok (.object members) →
        Entries.get? members name = some (.string literal) →
          ∃ (o : OpenObject name) (quoted : List Char), EndsString quoted literal ∧
            o.fill ('"' :: quoted) = s) ∧
    ∃ n : Json.Number, Unquoted literal n ∧
      (∀ (name : String) (o : OpenObject name) (quoted : List Char), EndsString quoted literal →
        (∃ fault, Metadata.ofJson (o.fill ('"' :: quoted)) = .error fault ∧
          Metadata.ofJson (o.fill literal.toList) = .error fault) ∨
        ∃ m m', Metadata.ofJson (o.fill ('"' :: quoted)) = .ok m ∧
          Metadata.ofJson (o.fill literal.toList) = .ok m' ∧
          Metadata.DifferIn name literal n.text m m' ∧
          (name = versionField →
            (outcome m = outcome m' ↔ declared? n.text = declared? literal) ∧
              PicksAlike m m') ∧
          (name = schemaVersionField →
            outcome m = outcome m' ∧
              (PicksAlike m m' ↔ denoted? n.text = denoted? literal))) ∧
      ∀ whole fraction zeros, IsShort literal whole fraction zeros →
        declared? n.text = declared? literal ∧
          (denoted? n.text = denoted? literal ↔ fraction = [] ∨ zeros = 0) := by
  obtain ⟨n, hn⟩ := exists_unquoted hnumber hversion
  obtain ⟨numbers, hspells, -⟩ := Version.parse_eq_ok_iff.mp hversion
  have hdenoted : denoted? literal ≠ none := by
    rw [Version.denoted?_of_spells hspells]
    exact Option.some_ne_none _
  refine ⟨fun name s members => OpenObject.exists_fill, n, hn, fun name o quoted hquoted => ?_,
    fun whole fraction zeros h => hn.short_denotes (Version.literal_cases hnumber hspells) h⟩
  rcases Metadata.ofJson_fill o hquoted.denotes.stands hn.reads rfl rfl with
    hfault | ⟨m, m', hm, hm', hdiffer⟩
  · exact .inl hfault
  · refine .inr ⟨m, m', hm, hm', hdiffer, ?_, ?_⟩
    · rintro rfl
      exact ⟨outcome_eq_iff hdiffer hn.supported,
        fun config => by rw [hdiffer.elsewhere _ (by decide)]⟩
    · rintro rfl
      exact ⟨outcome_eq_of_schemaVersion hdiffer, picksAlike_iff hdiffer hdenoted⟩

/-- Without its quotes `1.10` is requested as `1.1`, which is another
version. -/
theorem dropped_quotes_of_trailing_zero :
    IsNumber "1.10".toList ∧ Version.parse "1.10" = .ok ⟨"1.10", [1, 10]⟩ ∧
      ∃ n, Unquoted "1.10" n ∧ n.text = "1.1" ∧
        ∃ m m', Metadata.ofJson "\x7b\"schema_version\":\"1.10\"\x7d" = .ok m ∧
          Metadata.ofJson "\x7b\"schema_version\":1.10\x7d" = .ok m' ∧ outcome m = outcome m' ∧
          ¬ PicksAlike m m' := by
  have hnumber : IsNumber "1.10".toList :=
    Json.isNumber_decimal (by decide +kernel : _ = ['1'] ++ '.' :: ['1', '0'])
      (by decide +kernel) (List.cons_ne_nil _ _) (by decide +kernel)
  have hversion : Version.parse "1.10" = .ok ⟨"1.10", [1, 10]⟩ := by decide
  have hvalue : valueOf (['1'] ++ ['1']) = 11 := by decide
  have hshort : IsShort "1.10" ['1'] ['1'] 1 :=
    ⟨by decide, by decide, by decide, .inr (by rw [hvalue]; norm_num)⟩
  have hquoted : EndsString "1.10\"".toList "1.10" := by
    have hescaped : "1.10\"".toList = "1.10".toList.flatMap Json.escapedChar ++ ['"'] := by decide
    rw [hescaped]
    exact Json.endsString_escaped "1.10"
  obtain ⟨-, n, hn, hplaces, hdecimal⟩ := dropped_quotes_matter_iff hnumber hversion
  have hfill : (OpenObject.sole schemaVersionField).fill ('"' :: "1.10\"".toList) =
      "\x7b\"schema_version\":\"1.10\"\x7d" := by decide
  have hfill' : (OpenObject.sole schemaVersionField).fill "1.10".toList =
      "\x7b\"schema_version\":1.10\x7d" := by decide
  have hplace := hplaces schemaVersionField (.sole schemaVersionField) _ hquoted
  rw [hfill, hfill'] at hplace
  refine ⟨hnumber, hversion, n, hn, hn.short _ _ _ hshort, ?_⟩
  rcases hplace with ⟨fault, hfault, -⟩ | ⟨m, m', hm, hm', -, -, hpicks⟩
  · have hread : Metadata.ofJson "\x7b\"schema_version\":\"1.10\"\x7d" =
        .ok (.ofPairs [("schema_version", "1.10")]) := by decide +kernel
    rw [hread] at hfault
    cases hfault
  · obtain ⟨houtcome, hiff⟩ := hpicks rfl
    have hdiffer : denoted? n.text ≠ denoted? "1.10" := fun heq =>
      absurd ((hdecimal _ _ _ hshort).2.mp heq) (by decide)
    exact ⟨m, m', hm, hm', houtcome, fun h => hdiffer (hiff.mp h)⟩

/-- As strings and as numbers both literals are versions. Without its quotes
the first picks another definition, and the second is rounded to a supported
version. -/
theorem dropped_quotes_change_answers :
    (IsNumber "1.10".toList ∧ Version.parse "1.10" = .ok ⟨"1.10", [1, 10]⟩ ∧
      ∃ m m', Metadata.ofJson "\x7b\"schema_version\":\"1.10\"\x7d" = .ok m ∧
        Metadata.ofJson "\x7b\"schema_version\":1.10\x7d" = .ok m' ∧ ¬ PicksAlike m m') ∧
    (IsNumber "1.9999999999999999999".toList ∧
      Version.parse "1.9999999999999999999" =
        .ok ⟨"1.9999999999999999999", [1, 9999999999999999999]⟩ ∧
      ∃ m m', Metadata.ofJson "\x7b\"version\":\"1.9999999999999999999\"\x7d" = .ok m ∧
        Metadata.ofJson "\x7b\"version\":1.9999999999999999999\x7d" = .ok m' ∧
        outcome m ≠ outcome m') := by
  refine ⟨⟨?_, by decide, .ofPairs [("schema_version", "1.10")],
    .ofPairs [("schema_version", "1.1")], by decide +kernel, by decide +kernel, fun h => ?_⟩,
    ?_, by decide, .ofPairs [("version", "1.9999999999999999999")], .ofPairs [("version", "2.0")],
    by decide +kernel, by decide +kernel, by decide +kernel⟩
  · exact Json.isNumber_decimal (by decide +kernel : _ = ['1'] ++ '.' :: ['1', '0'])
      (by decide +kernel) (List.cons_ne_nil _ _) (by decide +kernel)
  · have hpick := h (.versioned [⟨some "1.1", []⟩, ⟨some "1.10", []⟩])
    revert hpick
    decide +kernel
  · exact Json.isNumber_decimal
      (by decide +kernel : _ = ['1'] ++ '.' :: "9999999999999999999".toList) (by decide +kernel)
      (by decide +kernel) (by decide +kernel)

end Dropping

end Verification

end UploadHooks
