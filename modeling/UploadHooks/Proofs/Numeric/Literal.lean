import UploadHooks.Numeric.Literal
import UploadHooks.Proofs.Numeric.Natural
import UploadHooks.Proofs.Numeric.Rounding

/-!
# Which texts are decimal numbers

`IsDecimal` is the notation on its own: digits with a point among them or
none, then an exponent or none, and the number that is meant is a rational
one. The reader splits a text at the first character that is no digit, twice
over, and since neither a point nor the mark of an exponent is a digit
there is no other way to split it (`readDecimal_eq_some_iff`).

The number is then rounded once. For exponents far out the outcome is known
beforehand, and it is the same that rounding would have
(`Magnitude.ofDecimal_eq_some_iff`): `2 ^ 1024` is less than `10 ^ 400`, and
`10 ^ (-401)` is less than half of the smallest magnitude.
-/

namespace UploadHooks

namespace Numeric

/-! ## The notation -/

/-- The text is the core after an optional sign, which may be a minus. -/
inductive Signed (core : List Char) : Bool → List Char → Prop
  | minus : Signed core true ('-' :: core)
  | plus : Signed core false ('+' :: core)
  | bare : Signed core false core

/-- The text is that whole number, written with digits after an optional sign. -/
def IsWhole (text : List Char) (e : ℤ) : Prop :=
  ∃ negative digits, Signed digits negative text ∧ digits ≠ [] ∧ AllDigits digits ∧
    e = if negative then -(valueOf digits : ℤ) else valueOf digits

/-- The text is an exponent part, which may be missing. -/
def IsExponent (text : List Char) (e : ℤ) : Prop :=
  text = [] ∧ e = 0 ∨ ∃ mark rest, (mark = 'e' ∨ mark = 'E') ∧ text = mark :: rest ∧ IsWhole rest e

/-- The text is that number, written without a sign. -/
def IsDecimal (text : List Char) (q : ℚ) : Prop :=
  ∃ whole fraction exponent e, AllDigits whole ∧ AllDigits fraction ∧ whole ++ fraction ≠ [] ∧
    (text = whole ++ exponent ∧ fraction = [] ∨ text = whole ++ '.' :: (fraction ++ exponent)) ∧
    IsExponent exponent e ∧
    q = (valueOf whole + valueOf fraction / 10 ^ fraction.length) * 10 ^ e

/-! ## Signs -/

/-- The text does not start with a sign. -/
def Unsigned (text : List Char) : Prop := ∀ c ∈ text.head?, c ≠ '-' ∧ c ≠ '+'

section Signed

variable {P : Bool → List Char → Prop} {text : List Char}

/-- Where the core is something without a sign of its own, the sign of the
text is the one it starts with. -/
theorem exists_signed_minus_iff (hP : ∀ negative core, P negative core → Unsigned core) :
    (∃ negative core, Signed core negative ('-' :: text) ∧ P negative core) ↔ P true text := by
  constructor
  · rintro ⟨_, _, hsigned | hsigned | hsigned, h⟩
    · exact h
    · exact absurd rfl ((hP _ _ h) '-' rfl).1
  · intro h
    exact ⟨true, text, .minus, h⟩

theorem exists_signed_plus_iff (hP : ∀ negative core, P negative core → Unsigned core) :
    (∃ negative core, Signed core negative ('+' :: text) ∧ P negative core) ↔ P false text := by
  constructor
  · rintro ⟨_, _, hsigned | hsigned | hsigned, h⟩
    · exact h
    · exact absurd rfl ((hP _ _ h) '+' rfl).2
  · intro h
    exact ⟨false, text, .plus, h⟩

theorem exists_signed_bare_iff (hminus : ∀ rest, text = '-' :: rest → False)
    (hplus : ∀ rest, text = '+' :: rest → False) :
    (∃ negative core, Signed core negative text ∧ P negative core) ↔ P false text := by
  constructor
  · rintro ⟨_, _, hsigned | hsigned | hsigned, h⟩
    · exact (hminus _ rfl).elim
    · exact (hplus _ rfl).elim
    · exact h
  · intro h
    exact ⟨false, text, .bare, h⟩

end Signed

theorem unsigned_of_allDigits {digits : List Char} (h : AllDigits digits) : Unsigned digits := by
  intro c hc
  have hdigit := h c (List.mem_of_mem_head? hc)
  constructor <;> rintro rfl <;> cases hdigit

/-! ## Digits at the front -/

/-- The text does not go on with a digit. -/
def Stops (text : List Char) : Prop := ∀ c ∈ text.head?, c.isDigit = false

theorem spanDigits_eq_iff {text digits rest : List Char} :
    spanDigits text = (digits, rest) ↔
      text = digits ++ rest ∧ AllDigits digits ∧ Stops rest := by
  rw [spanDigits, List.span_eq_takeWhile_dropWhile, Prod.mk.injEq]
  constructor
  · rintro ⟨rfl, rfl⟩
    refine ⟨(List.takeWhile_append_dropWhile ..).symm, fun _ hc => List.mem_takeWhile_imp hc, ?_⟩
    intro c hc
    have hhead := List.head?_dropWhile_not Char.isDigit text
    rw [Option.mem_def.mp hc] at hhead
    simpa using hhead
  · rintro ⟨rfl, hdigits, hstops⟩
    rw [List.takeWhile_append_of_pos hdigits, List.dropWhile_append_of_pos hdigits]
    cases rest with
    | nil => simp
    | cons c rest =>
        have hc : c.isDigit = false := hstops c rfl
        rw [List.takeWhile_cons_of_neg (by simp [hc]), List.dropWhile_cons_of_neg (by simp [hc]),
          List.append_nil]
        exact ⟨rfl, rfl⟩

theorem IsExponent.head {text : List Char} {e : ℤ} (h : IsExponent text e) :
    text = [] ∨ ∃ mark rest, text = mark :: rest ∧ (mark = 'e' ∨ mark = 'E') := by
  rcases h with ⟨rfl, -⟩ | ⟨mark, rest, hmark, rfl, -⟩
  · exact .inl rfl
  · exact .inr ⟨mark, rest, rfl, hmark⟩

theorem IsExponent.stops {text : List Char} {e : ℤ} (h : IsExponent text e) : Stops text := by
  intro c hc
  rcases h.head with rfl | ⟨mark, rest, rfl, hmark⟩
  · cases hc
  · obtain rfl : mark = c := Option.some.inj hc
    rcases hmark with rfl | rfl <;> rfl

/-! ## Reading an exponent -/

section Exponent

variable {digits : List Char} {e : ℤ}

/-- An exponent is taken if all of it is digits. -/
theorem exponent_digits_iff (value : ℤ) :
    (if digits.isEmpty ∨ ¬ digits.all Char.isDigit then none else some value) = some e ↔
      digits ≠ [] ∧ AllDigits digits ∧ e = value := by
  have hall : digits.all Char.isDigit = true ↔ AllDigits digits := List.all_eq_true
  by_cases hbad : digits.isEmpty ∨ ¬ digits.all Char.isDigit
  · rw [if_pos hbad]
    refine iff_of_false (by simp) fun h => ?_
    rcases hbad with hempty | hletter
    · exact h.1 (List.isEmpty_iff.mp hempty)
    · exact hletter (hall.mpr h.2.1)
  · rw [if_neg hbad, Option.some.injEq, eq_comm]
    rw [not_or, not_not, List.isEmpty_iff, hall] at hbad
    exact ⟨fun h => ⟨hbad.1, hbad.2, h⟩, fun h => h.2.2⟩

theorem readExponent_eq_some_iff {text : List Char} :
    readExponent text = some e ↔ IsExponent text e := by
  cases text with
  | nil => simp [readExponent, IsExponent, eq_comm]
  | cons mark text =>
      by_cases hmark : mark = 'e' ∨ mark = 'E'
      · have hpart : IsExponent (mark :: text) e ↔ IsWhole text e := by
          rcases hmark with rfl | rfl <;> simp [IsExponent]
        have hunsigned : ∀ (negative : Bool) (digits : List Char), (digits ≠ [] ∧
            AllDigits digits ∧ e = if negative then -(valueOf digits : ℤ) else valueOf digits) →
              Unsigned digits := fun _ _ h => unsigned_of_allDigits h.2.1
        rw [hpart, IsWhole]
        simp only [readExponent, if_pos hmark, digitsValue_eq]
        split
        · rw [exists_signed_minus_iff hunsigned]
          exact exponent_digits_iff _
        · rw [exists_signed_plus_iff hunsigned]
          exact exponent_digits_iff _
        · rename_i hminus hplus
          rw [exists_signed_bare_iff hminus hplus]
          exact exponent_digits_iff _
      · simp only [readExponent, if_neg hmark]
        refine iff_of_false (by simp) fun h => ?_
        rcases h.head with h | ⟨_, _, h, hmark'⟩
        · cases h
        · cases h
          exact hmark hmark'

end Exponent

/-! ## Reading a number -/

theorem IsExponent.point_ne {exponent : List Char} {e : ℤ} (h : IsExponent exponent e)
    (rest : List Char) : exponent ≠ '.' :: rest := by
  rintro rfl
  rcases h.head with hnil | ⟨mark, tail, hcons, hmark⟩
  · cases hnil
  · cases hcons
    revert hmark
    decide

/-- The digits on both sides of the point, as one number. -/
theorem valueOf_append_div (whole fraction : List Char) :
    (valueOf (whole ++ fraction) : ℚ) / 10 ^ fraction.length =
      valueOf whole + valueOf fraction / 10 ^ fraction.length := by
  have hpow : (10 : ℚ) ^ fraction.length ≠ 0 := by positivity
  rw [valueOf_append]
  push_cast
  rw [add_div, mul_div_cancel_right₀ _ hpow]

section Decimal

variable {text whole fraction rest tail : List Char}

theorem isEmpty_and_isEmpty_iff {α : Type} {a b : List α} :
    (a.isEmpty = true ∧ b.isEmpty = true) ↔ a ++ b = [] := by
  rw [List.isEmpty_iff, List.isEmpty_iff, List.append_eq_nil_iff]

/-- Digits without a point after them. -/
theorem readDecimal_whole (hspan : spanDigits text = (whole, rest))
    (hpoint : ∀ tail, rest ≠ '.' :: tail) :
    readDecimal text =
      if whole = [] then none else (readExponent rest).map fun e => (valueOf whole, e) := by
  simp only [readDecimal, hspan, isEmpty_and_isEmpty_iff, List.append_nil, digitsValue_eq,
    List.length_nil, Nat.cast_zero, sub_zero]

/-- Digits with a point among them, before them or after them. -/
theorem readDecimal_pointed (hspan : spanDigits text = (whole, '.' :: rest))
    (hfraction : spanDigits rest = (fraction, tail)) :
    readDecimal text = if whole ++ fraction = [] then none else
      (readExponent tail).map fun (e : ℤ) =>
        (valueOf (whole ++ fraction), e - fraction.length) := by
  simp only [readDecimal, hspan, hfraction, isEmpty_and_isEmpty_iff, digitsValue_eq]

/-- The reader takes exactly the decimal numbers. -/
theorem readDecimal_eq_some_iff {digits : ℕ} {g : ℤ} :
    readDecimal text = some (digits, g) ↔
      ∃ whole fraction exponent e, AllDigits whole ∧ AllDigits fraction ∧
        whole ++ fraction ≠ [] ∧
        (text = whole ++ exponent ∧ fraction = [] ∨
          text = whole ++ '.' :: (fraction ++ exponent)) ∧
        IsExponent exponent e ∧ digits = valueOf (whole ++ fraction) ∧
        g = e - fraction.length := by
  constructor
  · intro h
    obtain ⟨⟨whole, rest⟩, hspan⟩ : ∃ span, spanDigits text = span := ⟨_, rfl⟩
    obtain ⟨htext, hwhole, -⟩ := spanDigits_eq_iff.mp hspan
    by_cases hpoint : ∃ tail, rest = '.' :: tail
    · obtain ⟨tail, rfl⟩ := hpoint
      obtain ⟨⟨fraction, exponent⟩, htail⟩ : ∃ span, spanDigits tail = span := ⟨_, rfl⟩
      obtain ⟨rfl, hfraction, -⟩ := spanDigits_eq_iff.mp htail
      rw [readDecimal_pointed hspan htail] at h
      split_ifs at h with hempty
      obtain ⟨e, he, hpair⟩ := Option.map_eq_some_iff.mp h
      obtain ⟨rfl, rfl⟩ := Prod.mk.inj hpair
      exact ⟨whole, fraction, exponent, e, hwhole, hfraction, hempty, .inr htext,
        readExponent_eq_some_iff.mp he, rfl, rfl⟩
    · rw [readDecimal_whole hspan (not_exists.mp hpoint)] at h
      split_ifs at h with hempty
      obtain ⟨e, he, hpair⟩ := Option.map_eq_some_iff.mp h
      obtain ⟨rfl, rfl⟩ := Prod.mk.inj hpair
      exact ⟨whole, [], rest, e, hwhole, by simp [AllDigits], by simpa using hempty,
        .inl ⟨htext, rfl⟩, readExponent_eq_some_iff.mp he, by simp, by simp⟩
  · rintro ⟨whole, fraction, exponent, e, hwhole, hfraction, hne, htext, he, rfl, rfl⟩
    have hread := readExponent_eq_some_iff.mpr he
    rcases htext with ⟨rfl, rfl⟩ | rfl
    · have hspan := spanDigits_eq_iff.mpr ⟨rfl, hwhole, he.stops⟩
      rw [List.append_nil] at hne
      rw [readDecimal_whole hspan he.point_ne, if_neg hne, hread]
      simp
    · have hpoint : Stops ('.' :: (fraction ++ exponent)) := by
        rintro c ⟨⟩
        rfl
      have hspan := spanDigits_eq_iff.mpr ⟨rfl, hwhole, hpoint⟩
      have htail := spanDigits_eq_iff.mpr ⟨rfl, hfraction, he.stops⟩
      rw [readDecimal_pointed hspan htail, if_neg hne, hread]
      rfl

theorem isDecimal_iff {q : ℚ} :
    IsDecimal text q ↔ ∃ digits g, readDecimal text = some (digits, g) ∧ q = digits * 10 ^ g := by
  have hscale (whole fraction : List Char) (e : ℤ) :
      ((valueOf whole : ℚ) + valueOf fraction / 10 ^ fraction.length) * 10 ^ e =
        valueOf (whole ++ fraction) * 10 ^ (e - fraction.length) := by
    rw [← valueOf_append_div, zpow_sub₀ (by norm_num), zpow_natCast]
    ring
  constructor
  · rintro ⟨whole, fraction, exponent, e, hwhole, hfraction, hne, htext, he, rfl⟩
    exact ⟨_, _, readDecimal_eq_some_iff.mpr
      ⟨whole, fraction, exponent, e, hwhole, hfraction, hne, htext, he, rfl, rfl⟩, hscale ..⟩
  · rintro ⟨digits, g, hread, rfl⟩
    obtain ⟨whole, fraction, exponent, e, hwhole, hfraction, hne, htext, he, rfl, rfl⟩ :=
      readDecimal_eq_some_iff.mp hread
    exact ⟨whole, fraction, exponent, e, hwhole, hfraction, hne, htext, he, (hscale ..).symm⟩

end Decimal

/-! ## The nearest magnitude -/

namespace Magnitude

theorem two_zpow_le_ten_zpow {a b : ℤ} (hb : 0 ≤ b) (h : a ≤ 3 * b) :
    (2 : ℚ) ^ a ≤ 10 ^ b :=
  calc (2 : ℚ) ^ a ≤ 2 ^ (3 * b) := zpow_le_zpow_right₀ one_le_two h
    _ = 8 ^ b := by
        rw [zpow_mul]
        norm_num
    _ ≤ 10 ^ b := zpow_le_zpow_left₀ hb (by norm_num) (by norm_num)

/-- The power of ten that the number has its first digit at. -/
theorem lead_bounds {digits : ℕ} (h : digits ≠ 0) (g : ℤ) :
    (10 : ℚ) ^ (g + (Nat.toDigits 10 digits).length - 1) ≤ digits * 10 ^ g ∧
      (digits : ℚ) * 10 ^ g < 10 ^ (g + (Nat.toDigits 10 digits).length) := by
  obtain ⟨width, hwidth⟩ : ∃ width, width + 1 = (Nat.toDigits 10 digits).length :=
    ⟨_, Nat.sub_add_cancel Nat.length_toDigits_pos⟩
  have hten : (10 : ℚ) ≠ 0 := by norm_num
  have hlow : 10 ^ width ≤ digits := by
    rcases Nat.eq_zero_or_pos width with rfl | hpos
    · exact Nat.one_le_iff_ne_zero.mpr h
    · by_contra hlt
      have hshort := (Nat.length_toDigits_le_iff (by decide) hpos).mpr (not_le.mp hlt)
      omega
  have hhigh : digits < 10 ^ (width + 1) :=
    (Nat.length_toDigits_le_iff (by decide) (by omega)).mp hwidth.ge
  have hlowq : (10 : ℚ) ^ width ≤ digits := by exact_mod_cast hlow
  have hhighq : (digits : ℚ) < 10 ^ (width + 1) := by exact_mod_cast hhigh
  have hunit : (0 : ℚ) < 10 ^ g := zpow_pos (by norm_num) g
  rw [← hwidth]
  constructor
  · have hexp : g + ((width + 1 : ℕ) : ℤ) - 1 = width + g := by
      push_cast
      ring
    rw [hexp, zpow_add₀ hten, zpow_natCast]
    exact mul_le_mul_of_nonneg_right hlowq hunit.le
  · rw [add_comm, zpow_add₀ hten, zpow_natCast]
    exact mul_lt_mul_of_pos_right hhighq hunit

theorem overflow_le : overflow ≤ 10 ^ (400 : ℤ) :=
  calc overflow ≤ 2 ^ (53 : ℕ) * 2 ^ greatestExponent :=
        mul_le_mul_of_nonneg_right (by norm_num) (two_zpow_pos _).le
    _ = 2 ^ (53 + greatestExponent) := by
        rw [zpow_add₀ two_ne_zero]
        norm_num
    _ ≤ 10 ^ (400 : ℤ) := two_zpow_le_ten_zpow (by decide) (by decide)

theorem one_lt_overflow : 1 < overflow :=
  calc (1 : ℚ) ≤ 2 ^ greatestExponent := one_le_zpow₀ one_le_two (by decide)
    _ < overflow := lt_mul_of_one_lt_left (two_zpow_pos _) (by norm_num)

/-- Less than half of the smallest magnitude is nearest to zero. -/
theorem zero_isNearest_of_small {q : ℚ} (hq : 0 ≤ q) (h : q ≤ 10 ^ (-400 : ℤ)) :
    zero.IsNearest q := by
  have hsmall : q / 2 ^ leastExponent ≤ 1 / 2 := by
    rw [div_le_iff₀ (two_zpow_pos _)]
    calc q ≤ 10 ^ (-400 : ℤ) := h
      _ ≤ 2 ^ (leastExponent - 1) := by
          have hpowers : (2 : ℚ) ^ (1075 : ℤ) ≤ 10 ^ (400 : ℤ) :=
            two_zpow_le_ten_zpow (by decide) (by decide)
          have hexp : leastExponent - 1 = -1075 := rfl
          rw [hexp, zpow_neg, zpow_neg]
          exact inv_anti₀ (two_zpow_pos _) hpowers
      _ = 1 / 2 * 2 ^ leastExponent := by
          rw [zpow_sub_one₀ two_ne_zero]
          ring
  have hnonneg : 0 ≤ q / 2 ^ leastExponent := div_nonneg hq (two_zpow_pos _).le
  refine isNearest_of_units (m := 0) (.inr rfl) ?_ zero_isNearest.inFormat ?_ fun _ => rfl
  · rw [isNearest_iff hnonneg, Nat.cast_zero, sub_zero, abs_of_nonneg hnonneg]
    exact ⟨hsmall, fun _ => rfl⟩
  · rw [zero_value, Nat.cast_zero, zero_mul]

/-- The shortcuts for exponents far out have the outcome of rounding. -/
theorem ofDecimal_eq_some_iff {digits : ℕ} {g : ℤ} {a : Magnitude} :
    ofDecimal digits g = some a ↔
      (digits : ℚ) * 10 ^ g < overflow ∧ a.IsNearest ((digits : ℚ) * 10 ^ g) := by
  simp only [ofDecimal]
  split_ifs with hzero hlarge hsmall
  · rw [hzero, Nat.cast_zero, zero_mul, Option.some.injEq]
    constructor
    · rintro rfl
      exact ⟨overflow_pos, zero_isNearest⟩
    · rintro ⟨-, ha⟩
      exact zero_isNearest.unique ha
  · obtain ⟨hlow, -⟩ := lead_bounds hzero g
    refine iff_of_false (by simp) fun h => absurd h.1 (not_lt.mpr ?_)
    calc overflow ≤ 10 ^ (400 : ℤ) := overflow_le
      _ ≤ 10 ^ (g + (Nat.toDigits 10 digits).length - 1) :=
          zpow_le_zpow_right₀ (by norm_num) (by omega)
      _ ≤ digits * 10 ^ g := hlow
  · obtain ⟨-, hhigh⟩ := lead_bounds hzero g
    have hle : (digits : ℚ) * 10 ^ g ≤ 10 ^ (-400 : ℤ) :=
      hhigh.le.trans (zpow_le_zpow_right₀ (by norm_num) (by omega))
    have hnear := zero_isNearest_of_small (by positivity) hle
    rw [Option.some.injEq]
    constructor
    · rintro rfl
      have hone : (10 : ℚ) ^ (-400 : ℤ) ≤ 1 := zpow_le_one_of_nonpos₀ (by norm_num) (by decide)
      exact ⟨lt_of_le_of_lt (hle.trans hone) one_lt_overflow, hnear⟩
    · rintro ⟨-, ha⟩
      exact hnear.unique ha
  · have hpower := power_eq 10 g (by decide)
    have hquotient : ((digits * (power 10 g).1 : ℕ) : ℚ) / ((power 10 g).2 : ℕ) =
        digits * 10 ^ g := by
      rw [Nat.cast_mul, mul_div_assoc, hpower]
      norm_num
    rw [← hquotient]
    exact ofRatio_eq_some_iff (power_pos 10 g (by decide)).2.ne'

end Magnitude

/-! ## Signed numbers -/

/-- The text is a decimal number after an optional sign, and the number of
the format is the nearest one with that sign. -/
def IsFinite (text : List Char) (x : Binary64) : Prop :=
  ∃ negative core, Signed core negative text ∧ x.negative = negative ∧
    ∃ q, IsDecimal core q ∧ q < Magnitude.overflow ∧ x.magnitude.IsNearest q

theorem IsDecimal.unsigned {text : List Char} {q : ℚ} (h : IsDecimal text q) :
    Unsigned text := by
  obtain ⟨whole, fraction, exponent, e, hwhole, -, -, htext, he, -⟩ := h
  intro c hc
  cases whole with
  | cons d whole =>
      have hhead : text.head? = some d := by
        rcases htext with ⟨rfl, -⟩ | rfl <;> rfl
      rw [hhead, Option.mem_some] at hc
      exact unsigned_of_allDigits hwhole c (hc ▸ rfl)
  | nil =>
      rcases htext with ⟨rfl, -⟩ | rfl
      · rcases he.head with rfl | ⟨mark, rest, rfl, hmark⟩
        · cases hc
        · obtain rfl : mark = c := Option.some.inj hc
          rcases hmark with rfl | rfl <;> decide
      · obtain rfl : '.' = c := Option.some.inj hc
        decide

/-- A natural number is a decimal one behind an optional sign. -/
theorem IsNatural.exists_signed {limit n : ℕ} {text : List Char} (h : IsNatural limit text n) :
    ∃ digits, Signed digits false text ∧ IsDecimal digits n := by
  obtain ⟨sign, digits, hsign, rfl, hne, hdigits, rfl, -⟩ := h
  have hdecimal : IsDecimal digits (valueOf digits : ℚ) := by
    refine ⟨digits, [], [], 0, hdigits, by simp [AllDigits], by simpa using hne,
      .inl ⟨by simp, rfl⟩, .inl ⟨rfl, rfl⟩, ?_⟩
    simp [show valueOf [] = 0 from rfl]
  rcases hsign with rfl | rfl
  · exact ⟨digits, .bare, hdecimal⟩
  · exact ⟨digits, .plus, hdecimal⟩

/-! The characters of a number: digits, signs, the point and the mark of
the exponent. -/

def IsNumberChar (c : Char) : Prop := c.isDigit = true ∨ c ∈ ['+', '-', '.', 'e', 'E']

theorem AllDigits.number {digits : List Char} (h : AllDigits digits) :
    ∀ c ∈ digits, IsNumberChar c := fun c hc => .inl (h c hc)

theorem Signed.number {core text : List Char} {negative : Bool} (h : Signed core negative text)
    (hcore : ∀ c ∈ core, IsNumberChar c) : ∀ c ∈ text, IsNumberChar c := by
  rcases h with _ | _ | _
  · exact List.forall_mem_cons.mpr ⟨.inr (by decide), hcore⟩
  · exact List.forall_mem_cons.mpr ⟨.inr (by decide), hcore⟩
  · exact hcore

theorem IsExponent.number {text : List Char} {e : ℤ} (h : IsExponent text e) :
    ∀ c ∈ text, IsNumberChar c := by
  rcases h with ⟨rfl, -⟩ | ⟨mark, rest, hmark, rfl, negative, digits, hsigned, -, hdigits, -⟩
  · simp
  · have hrest := hsigned.number hdigits.number
    rcases hmark with rfl | rfl <;>
      exact List.forall_mem_cons.mpr ⟨.inr (by decide), hrest⟩

theorem point_not_mem {digits : List Char} (h : AllDigits digits) : '.' ∉ digits :=
  fun hmem => absurd (h '.' hmem) (by decide)

theorem IsExponent.point_not_mem {text : List Char} {e : ℤ} (h : IsExponent text e) :
    '.' ∉ text := by
  rcases h with ⟨rfl, -⟩ | ⟨mark, rest, hmark, rfl, negative, digits, hsigned, -, hdigits, -⟩
  · exact List.not_mem_nil
  · have hnot := Numeric.point_not_mem hdigits
    have hrest : '.' ∉ rest := by rcases hsigned with _ | _ | _ <;> simp [hnot]
    rcases hmark with rfl | rfl <;> simp [hrest]

theorem IsDecimal.number {text : List Char} {q : ℚ} (h : IsDecimal text q) :
    ∀ c ∈ text, IsNumberChar c := by
  obtain ⟨whole, fraction, exponent, e, hwhole, hfraction, -, ⟨rfl, -⟩ | rfl, he, -⟩ := h
  · exact List.forall_mem_append.mpr ⟨hwhole.number, he.number⟩
  · exact List.forall_mem_append.mpr ⟨hwhole.number, List.forall_mem_cons.mpr
      ⟨.inr (by decide), List.forall_mem_append.mpr ⟨hfraction.number, he.number⟩⟩⟩

theorem IsNumberChar.not_blank {c : Char} (h : IsNumberChar c) : Text.isBlank c = false := by
  rcases h with hdigit | hmark
  · exact Text.isBlank_of_isDigit hdigit
  · simp only [List.mem_cons, List.not_mem_nil, or_false] at hmark
    rcases hmark with rfl | rfl | rfl | rfl | rfl <;> rfl

theorem IsFinite.clean {text : List Char} {x : Binary64} (h : IsFinite text x) :
    ∀ c ∈ text, Text.isBlank c = false := by
  obtain ⟨negative, core, hsigned, -, q, hcore, -, -⟩ := h
  exact fun c hc => (hsigned.number hcore.number c hc).not_blank

/-! ## Reading a signed number -/

theorem readWord_ne_finite (negative : Bool) (text : List Char) (x : Binary64) :
    readWord negative text ≠ some (.finite x) := by
  rw [readWord]
  split <;> simp

theorem readUnsigned_eq_finite_iff {negative : Bool} {text : List Char} {x : Binary64} :
    readUnsigned negative text = some (.finite x) ↔
      x.negative = negative ∧ ∃ q, IsDecimal text q ∧ q < Magnitude.overflow ∧
        x.magnitude.IsNearest q := by
  simp only [isDecimal_iff]
  rw [readUnsigned]
  cases hread : readDecimal text with
  | none => simp [readWord_ne_finite]
  | some pair =>
      obtain ⟨digits, g⟩ := pair
      obtain ⟨sign, magnitude⟩ := x
      have hround : Magnitude.ofDecimal digits g = some magnitude ↔ _ :=
        Magnitude.ofDecimal_eq_some_iff
      have hunique : (∃ q, (∃ digits' g', some (digits, g) = some (digits', g') ∧
          q = (digits' : ℚ) * 10 ^ g') ∧ q < Magnitude.overflow ∧ magnitude.IsNearest q) ↔
          Magnitude.ofDecimal digits g = some magnitude := by
        rw [hround]
        constructor
        · rintro ⟨q, ⟨digits', g', hpair, rfl⟩, hq⟩
          cases hpair
          exact hq
        · intro hq
          exact ⟨_, ⟨digits, g, rfl, rfl⟩, hq⟩
      simp only [hunique]
      cases hdecimal : Magnitude.ofDecimal digits g <;> simp [eq_comm]

/-- Where the unsigned reader looks for something without a sign of its own,
the reader looks for that behind an optional sign. -/
theorem readLiteral_eq_ok_iff_exists {text : List Char} {reading : Reading}
    {P : Bool → List Char → Prop}
    (hread : ∀ negative core, readUnsigned negative core = some reading ↔ P negative core)
    (hunsigned : ∀ negative core, P negative core → Unsigned core) :
    readLiteral text = .ok reading ↔
      ∃ negative core, Signed core negative text ∧ P negative core := by
  have helim (read : Option Reading) :
      read.elim (Except.error LiteralFault.invalid) Except.ok = .ok reading ↔
        read = some reading := by
    cases read <;> simp
  rw [readLiteral.eq_def]
  split
  · rw [exists_signed_bare_iff (by simp) (by simp), ← hread]
    simp [readUnsigned, readDecimal, spanDigits, readWord]
  · rw [exists_signed_minus_iff hunsigned, helim, hread]
  · rw [exists_signed_plus_iff hunsigned, helim, hread]
  · next hminus hplus => rw [exists_signed_bare_iff hminus hplus, helim, hread]

theorem readLiteral_eq_finite_iff {text : List Char} {x : Binary64} :
    readLiteral text = .ok (.finite x) ↔ IsFinite text x := by
  refine readLiteral_eq_ok_iff_exists (fun _ _ => readUnsigned_eq_finite_iff) ?_
  rintro negative core ⟨-, q, hcore, -⟩
  exact hcore.unsigned

end Numeric

end UploadHooks
