import UploadHooks.Proofs.Json.Literal
import UploadHooks.Proofs.Version.Supported

/-!
# Versions that are number literals

A JSON number that is also a version has neither a sign nor an exponent, so
it is one whole number, or two with a point between them (`literal_cases`).
What it denotes is said in terms of its digits.
-/

namespace UploadHooks

namespace Version

open Json (IsNumber IsWholePart)
open Numeric (AllDigits IsNatural max64 point_not_mem valueOf)

/-! ## Digits and points -/

/-- Digits are a number of a version as long as it fits. -/
theorem spellsNumber_digits_iff {digits : List Char} (hdigits : AllDigits digits)
    (hne : digits ≠ []) {n : Nat} : SpellsNumber digits n ↔ n = valueOf digits ∧ n ≤ max64 := by
  constructor
  · rintro ⟨core, ⟨before, after, hbefore, hafter, rfl⟩, hcore⟩
    have hnil {s : List Char} (hs : ∀ c ∈ s, Text.isBlank c = true) (hd : AllDigits s) : s = [] :=
      List.eq_nil_iff_forall_not_mem.mpr fun c hc =>
        absurd (Text.isBlank_of_isDigit (hd c hc)) (by simp [hs c hc])
    obtain rfl := hnil hbefore fun c hc =>
      hdigits c (List.mem_append_left _ (List.mem_append_left _ hc))
    obtain rfl := hnil hafter fun c hc => hdigits c (List.mem_append_right _ hc)
    obtain ⟨sign, digits', rfl | rfl, rfl, -, -, rfl, hle⟩ := hcore
    · exact ⟨by simp, hle⟩
    · exact absurd (hdigits '+' (by simp)) (by decide)
  · rintro ⟨rfl, hle⟩
    have hcore : IsNatural max64 digits (valueOf digits) :=
      ⟨[], digits, .inl rfl, rfl, hne, hdigits, rfl, hle⟩
    exact ⟨digits, ⟨[], [], by simp, by simp, by simp⟩, hcore⟩

section Spelled

variable {text : String} {whole fraction front back : List Char} {numbers : List Nat}

theorem spells_iff_of_no_point (htext : text.toList = whole) (h : '.' ∉ whole) :
    Spells text numbers ↔ ∃ n, numbers = [n] ∧ SpellsNumber whole n := by
  rw [spells_iff_splitOn, htext, List.splitOn_eq_singleton h, List.forall₂_cons_left_iff]
  simp only [List.forall₂_nil_left_iff]
  constructor
  · rintro ⟨n, rest, hn, rfl, rfl⟩
    exact ⟨n, rfl, hn⟩
  · rintro ⟨n, rfl, hn⟩
    exact ⟨n, [], hn, rfl, rfl⟩

theorem spells_iff_of_point (htext : text.toList = front ++ '.' :: back) (hfront : '.' ∉ front)
    (hback : '.' ∉ back) :
    Spells text numbers ↔
      ∃ n m, numbers = [n, m] ∧ SpellsNumber front n ∧ SpellsNumber back m := by
  have hsplit : text.toList.splitOn '.' = [front, back] :=
    calc text.toList.splitOn '.' = front.splitOn '.' ++ back.splitOn '.' := by
          rw [htext]
          exact List.splitOnP_append_cons front back (beq_self_eq_true '.')
      _ = [front, back] := by
          rw [List.splitOn_eq_singleton hfront, List.splitOn_eq_singleton hback]
          rfl
  rw [spells_iff_splitOn, hsplit, List.forall₂_cons_left_iff]
  simp only [List.forall₂_cons_left_iff, List.forall₂_nil_left_iff]
  constructor
  · rintro ⟨n, rest, hn, ⟨m, rest', hm, rfl, rfl⟩, rfl⟩
    exact ⟨n, m, rfl, hn, hm⟩
  · rintro ⟨n, m, rfl, hn, hm⟩
    exact ⟨n, [m], hn, ⟨m, [], hm, rfl, rfl⟩, rfl⟩

theorem spells_decimal_iff (htext : text.toList = whole ++ '.' :: fraction)
    (hwhole : AllDigits whole) (hwholeNe : whole ≠ []) (hfraction : AllDigits fraction)
    (hfractionNe : fraction ≠ []) :
    Spells text numbers ↔ numbers = [valueOf whole, valueOf fraction] ∧
      valueOf whole ≤ max64 ∧ valueOf fraction ≤ max64 := by
  rw [spells_iff_of_point htext (point_not_mem hwhole) (point_not_mem hfraction)]
  simp only [spellsNumber_digits_iff hwhole hwholeNe, spellsNumber_digits_iff hfraction hfractionNe]
  constructor
  · rintro ⟨n, m, rfl, ⟨rfl, hn⟩, rfl, hm⟩
    exact ⟨rfl, hn, hm⟩
  · rintro ⟨rfl, hn, hm⟩
    exact ⟨_, _, rfl, ⟨rfl, hn⟩, rfl, hm⟩

end Spelled

/-! ## Which literals are versions -/

/-- A literal that is a version: a whole number, or one with a fraction. -/
inductive Literal (text : String) : Prop
  | whole (hwhole : IsWholePart text.toList) (hfits : valueOf text.toList ≤ max64)
  | decimal (whole fraction : List Char) (htext : text.toList = whole ++ '.' :: fraction)
      (hwhole : IsWholePart whole) (hfraction : AllDigits fraction) (hne : fraction ≠ [])
      (hwholeFits : valueOf whole ≤ max64) (hfractionFits : valueOf fraction ≤ max64)

theorem not_mem_of_spellsNumber {piece : List Char} {n : Nat} (h : SpellsNumber piece n) :
    '-' ∉ piece ∧ 'e' ∉ piece ∧ 'E' ∉ piece :=
  ⟨fun hmem => absurd (h.mem_cases hmem) (by decide),
    fun hmem => absurd (h.mem_cases hmem) (by decide),
    fun hmem => absurd (h.mem_cases hmem) (by decide)⟩

theorem sign_eq_nil {sign rest : List Char} {n : Nat} (hsign : sign = [] ∨ sign = ['-'])
    (h : SpellsNumber (sign ++ rest) n) : sign = [] := by
  rcases hsign with rfl | rfl
  · rfl
  · exact absurd (by simp) (not_mem_of_spellsNumber h).1

theorem exponent_eq_nil {front exponent : List Char} {e : ℤ} {n : Nat}
    (hexponent : Numeric.IsExponent exponent e) (h : SpellsNumber (front ++ exponent) n) :
    exponent = [] := by
  obtain ⟨-, hlower, hupper⟩ := not_mem_of_spellsNumber h
  rcases hexponent.head with rfl | ⟨mark, rest, rfl, rfl | rfl⟩
  · rfl
  · exact absurd (by simp) hlower
  · exact absurd (by simp) hupper

theorem literal_cases {text : String} {numbers : List Nat} (hnumber : IsNumber text.toList)
    (h : Spells text numbers) : Literal text := by
  obtain ⟨sign, whole, fraction, exponent, e, hsign, hwhole, hfraction, hexponent, htext⟩ := hnumber
  have hsignPoint : '.' ∉ sign := by rcases hsign with rfl | rfl <;> simp
  have hwholePoint := point_not_mem hwhole.allDigits
  have hexponentPoint := hexponent.point_not_mem
  rcases hfraction with rfl | ⟨digits, rfl, hne, hdigits⟩
  · rw [List.nil_append] at htext
    obtain ⟨n, rfl, hn⟩ := (spells_iff_of_no_point htext
      (by simp [hsignPoint, hwholePoint, hexponentPoint])).mp h
    obtain rfl := sign_eq_nil hsign hn
    obtain rfl := exponent_eq_nil hexponent hn
    rw [List.nil_append, List.append_nil] at htext hn
    obtain ⟨rfl, hfits⟩ := (spellsNumber_digits_iff hwhole.allDigits hwhole.ne_nil).mp hn
    exact .whole (htext ▸ hwhole) (htext ▸ hfits)
  · have hsplit : text.toList = (sign ++ whole) ++ '.' :: (digits ++ exponent) := by
      rw [htext]
      simp
    obtain ⟨n, m, rfl, hn, hm⟩ := (spells_iff_of_point hsplit (by simp [hsignPoint, hwholePoint])
      (by simp [point_not_mem hdigits, hexponentPoint])).mp h
    obtain rfl := sign_eq_nil hsign hn
    obtain rfl := exponent_eq_nil hexponent hm
    rw [List.nil_append] at hsplit hn
    rw [List.append_nil] at hsplit hm
    obtain ⟨rfl, hwholeFits⟩ := (spellsNumber_digits_iff hwhole.allDigits hwhole.ne_nil).mp hn
    obtain ⟨rfl, hfits⟩ := (spellsNumber_digits_iff hdigits hne).mp hm
    exact .decimal whole digits hsplit hwhole hdigits hne hwholeFits hfits

/-! ## What they denote -/

theorem denoted?_decimal {text : String} {whole fraction : List Char}
    (htext : text.toList = whole ++ '.' :: fraction) (hwhole : IsWholePart whole)
    (hfraction : AllDigits fraction) (hne : fraction ≠ []) (hwholeFits : valueOf whole ≤ max64)
    (hfractionFits : valueOf fraction ≤ max64) :
    denoted? text = some (dropTrailingZeros [valueOf whole, valueOf fraction]) :=
  denoted?_of_spells ((spells_decimal_iff htext hwhole.allDigits hwhole.ne_nil hfraction hne).mpr
    ⟨rfl, hwholeFits, hfractionFits⟩)

theorem dropTrailingZeros_pair_inj {n m m' : Nat} :
    dropTrailingZeros [n, m] = dropTrailingZeros [n, m'] ↔ m = m' := by
  have hlength (k : Nat) : [n, k].length ≤ 2 := Nat.le_refl 2
  rw [dropTrailingZeros_eq_iff (hlength m) (hlength m')]
  simp [pad]

theorem dropTrailingZeros_pair_eq_singleton_iff {n m k : Nat} (hk : k ≠ 0) :
    dropTrailingZeros [n, m] = [k] ↔ n = k ∧ m = 0 := by
  rw [dropTrailingZeros_eq_singleton_iff hk]
  constructor
  · rintro ⟨zeros, h⟩
    obtain ⟨rfl, hzeros⟩ := List.cons.inj h
    exact ⟨rfl, List.eq_of_mem_replicate (hzeros ▸ List.mem_singleton_self m)⟩
  · rintro ⟨rfl, rfl⟩
    exact ⟨1, rfl⟩

end Version

end UploadHooks
