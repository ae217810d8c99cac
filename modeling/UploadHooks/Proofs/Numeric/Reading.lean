import UploadHooks.Proofs.Numeric.Literal

/-!
# What every literal denotes

Beside the decimal numbers that round to one of the format there are those
that are too large for it and the words for what is no finite number. Both
have a sign like the others, and the words are written in any letter case.

Each word has the letter `n` in it, which is in no decimal number, so a
text is never both and the order in which the reader tries them does not
matter (`readUnsigned_eq_some_iff`).
-/

namespace UploadHooks

namespace Numeric

/-- The text is that word, in any letter case. -/
def SpellsWord (word : String) (text : List Char) : Prop :=
  String.ofList (text.map Char.toLower) = word

/-- What a text denotes behind a sign. -/
inductive DenotesBehind (negative : Bool) (core : List Char) : Reading → Prop
  | finite {q : ℚ} {magnitude : Magnitude} : IsDecimal core q → q < Magnitude.overflow →
      magnitude.IsNearest q → DenotesBehind negative core (.finite ⟨negative, magnitude⟩)
  | tooLarge {q : ℚ} : IsDecimal core q → Magnitude.overflow ≤ q →
      DenotesBehind negative core (.infinite negative)
  | infinity : SpellsWord "inf" core ∨ SpellsWord "infinity" core →
      DenotesBehind negative core (.infinite negative)
  | notANumber : SpellsWord "nan" core → DenotesBehind negative core .notANumber

/-- What a text denotes, with a sign or without. -/
def Denotes (text : List Char) (reading : Reading) : Prop :=
  ∃ negative core, Signed core negative text ∧ DenotesBehind negative core reading

/-- The number that a number of the format is, its sign included. -/
def Binary64.value (x : Binary64) : ℚ :=
  if x.negative then -x.magnitude.value else x.magnitude.value

/-- Below zero is what has a minus sign, save the zero that has one. -/
theorem Binary64.value_nonneg_iff {x : Binary64} :
    0 ≤ x.value ↔ (x.negative = true → x.magnitude.value = 0) := by
  have hnonneg := x.magnitude.value_nonneg
  rw [value]
  cases x.negative with
  | false => simpa using hnonneg
  | true =>
      simp only [if_true, forall_const, Left.nonneg_neg_iff]
      exact ⟨fun h => le_antisymm h hnonneg, fun h => h.le⟩

theorem Binary64.value_eq_magnitude {x : Binary64}
    (h : x.negative = true → x.magnitude.value = 0) : x.value = x.magnitude.value := by
  rw [value]
  split
  · next hnegative => rw [h hnegative, neg_zero]
  · rfl

/-! ## Words are no decimal numbers -/

theorem IsNumberChar.toLower_ne {c : Char} (h : IsNumberChar c) : c.toLower ≠ 'n' := by
  rcases h with hdigit | hmark
  · have hdigits : ∀ n < 10, (Nat.digitChar n).toLower ≠ 'n' := by decide
    rw [← digitChar_of_isDigit hdigit]
    exact hdigits _ (digit_lt_ten hdigit)
  · simp only [List.mem_cons, List.not_mem_nil, or_false] at hmark
    rcases hmark with rfl | rfl | rfl | rfl | rfl <;> decide

theorem SpellsWord.map_toLower {word : String} {text : List Char} (h : SpellsWord word text) :
    text.map Char.toLower = word.toList := by
  rw [← h, String.toList_ofList]

theorem SpellsWord.readDecimal_eq_none {word : String} {text : List Char}
    (h : SpellsWord word text) (hletter : 'n' ∈ word.toList) : readDecimal text = none := by
  rw [Option.eq_none_iff_forall_ne_some]
  rintro ⟨digits, g⟩ hread
  rw [← h.map_toLower] at hletter
  obtain ⟨c, hc, hlower⟩ := List.mem_map.mp hletter
  have hnumber := (isDecimal_iff.mpr ⟨digits, g, hread, rfl⟩).number c hc
  exact hnumber.toLower_ne hlower

/-! ## Reading -/

section Reading

variable {negative : Bool} {core text : List Char} {reading : Reading}

theorem readWord_eq_some_iff : readWord negative core = some reading ↔
    (SpellsWord "inf" core ∨ SpellsWord "infinity" core) ∧ reading = .infinite negative ∨
      SpellsWord "nan" core ∧ reading = .notANumber := by
  rw [readWord]
  split
  · next h => simp [SpellsWord, h, eq_comm]
  · next h => simp [SpellsWord, h, eq_comm]
  · next h => simp [SpellsWord, h, eq_comm]
  · next hinf hinfinity hnan =>
    refine iff_of_false (by simp) ?_
    rintro (⟨hword | hword, -⟩ | ⟨hword, -⟩)
    · exact hinf hword
    · exact hinfinity hword
    · exact hnan hword

/-- A decimal number that is not below the overflow has no nearest one. -/
theorem ofDecimal_eq_none_iff {digits : ℕ} {g : ℤ} :
    Magnitude.ofDecimal digits g = none ↔ Magnitude.overflow ≤ (digits : ℚ) * 10 ^ g := by
  constructor
  · intro h
    by_contra hlt
    have hnonneg : (0 : ℚ) ≤ digits * 10 ^ g := by positivity
    obtain ⟨a, ha⟩ := Magnitude.exists_isNearest hnonneg (not_le.mp hlt)
    rw [Magnitude.ofDecimal_eq_some_iff.mpr ⟨not_le.mp hlt, ha⟩] at h
    cases h
  · intro hle
    rw [Option.eq_none_iff_forall_ne_some]
    intro a ha
    exact absurd (Magnitude.ofDecimal_eq_some_iff.mp ha).1 (not_lt.mpr hle)

theorem readUnsigned_eq_some_iff :
    readUnsigned negative core = some reading ↔ DenotesBehind negative core reading := by
  constructor
  · intro h
    rw [readUnsigned] at h
    cases hread : readDecimal core with
    | none =>
        rw [hread] at h
        rcases readWord_eq_some_iff.mp h with ⟨hword, rfl⟩ | ⟨hword, rfl⟩
        · exact .infinity hword
        · exact .notANumber hword
    | some pair =>
        obtain ⟨digits, g⟩ := pair
        have hdecimal := isDecimal_iff.mpr ⟨digits, g, hread, rfl⟩
        rw [hread] at h
        cases hround : Magnitude.ofDecimal digits g with
        | some magnitude =>
            obtain ⟨hlt, hnear⟩ := Magnitude.ofDecimal_eq_some_iff.mp hround
            simp only [hround, Option.some.injEq] at h
            exact h ▸ .finite hdecimal hlt hnear
        | none =>
            simp only [hround, Option.some.injEq] at h
            exact h ▸ .tooLarge hdecimal (ofDecimal_eq_none_iff.mp hround)
  · intro h
    cases h with
    | finite hdecimal hlt hnear =>
        exact readUnsigned_eq_finite_iff.mpr ⟨rfl, _, hdecimal, hlt, hnear⟩
    | tooLarge hdecimal hle =>
        obtain ⟨digits, g, hread, rfl⟩ := isDecimal_iff.mp hdecimal
        simp only [readUnsigned, hread, ofDecimal_eq_none_iff.mpr hle]
    | infinity hword =>
        have hnone : readDecimal core = none :=
          hword.elim (·.readDecimal_eq_none (by decide)) (·.readDecimal_eq_none (by decide))
        rw [readUnsigned, hnone]
        exact readWord_eq_some_iff.mpr (.inl ⟨hword, rfl⟩)
    | notANumber hword =>
        rw [readUnsigned, hword.readDecimal_eq_none (by decide)]
        exact readWord_eq_some_iff.mpr (.inr ⟨hword, rfl⟩)

/-- A word begins with a letter. -/
theorem SpellsWord.unsigned {word : String} {first : Char} (h : SpellsWord word core)
    (hword : word.toList.head? = some first) (hfirst : first ≠ '-' ∧ first ≠ '+') :
    Unsigned core := by
  intro c hc
  have hlower : c.toLower = first := by
    rw [← Option.some.injEq, ← hword, ← h.map_toLower, List.head?_map, hc]
    rfl
  constructor
  · rintro rfl
    exact hfirst.1 hlower.symm
  · rintro rfl
    exact hfirst.2 hlower.symm

theorem DenotesBehind.unsigned (h : DenotesBehind negative core reading) : Unsigned core := by
  cases h with
  | finite hdecimal _ _ => exact hdecimal.unsigned
  | tooLarge hdecimal _ => exact hdecimal.unsigned
  | infinity hword => exact hword.elim (·.unsigned rfl (by decide)) (·.unsigned rfl (by decide))
  | notANumber hword => exact hword.unsigned rfl (by decide)

theorem readLiteral_eq_ok_iff : readLiteral text = .ok reading ↔ Denotes text reading :=
  readLiteral_eq_ok_iff_exists (fun _ _ => readUnsigned_eq_some_iff) fun _ _ h => h.unsigned

end Reading

end Numeric

end UploadHooks
