import UploadHooks.Json.Number
import UploadHooks.Proofs.Numeric.Literal
import UploadHooks.Proofs.Numeric.Shortest

/-!
# Numbers in JSON text

The reader scales a significand by powers of ten, rounding after each
step, and the writer looks for the shortest decimal. A downward scaling
always ends in a number (`exists_scale`). Where the significand and the
power of ten are exact it rounds once (`ofScaled_isNearest`), and what is
written then is the decimal that was read, if it has at most fifteen digits
(`binaryText_of_isNearest`).

`exists_ofScaled_text` says this of the literal: the digits stay, with the
point where it was, and the zeros at the end go.
-/

namespace UploadHooks

namespace Json

open Numeric

namespace Number

/-! ## Scaling -/

section Scale

variable {m a : Magnitude} {e : ℤ} {k : ℕ}

/-- The greatest power of ten is a number of the format: `10 ^ 28` is less
than a hundredth above `2 ^ 93`, and `308 = 11 * 28`. -/
theorem ten_pow_lt_overflow : (10 : ℚ) ^ greatestPower < Magnitude.overflow := by
  have hexp : ((2 : ℚ) ^ (93 : ℕ)) ^ 11 = 2 ^ 52 * 2 ^ Magnitude.greatestExponent := by
    have hsum : ((93 * 11 : ℕ) : ℤ) = (52 : ℕ) + Magnitude.greatestExponent := by decide
    rw [← pow_mul, ← zpow_natCast, hsum, zpow_add₀ two_ne_zero, zpow_natCast]
  calc (10 : ℚ) ^ greatestPower = (10 ^ 28) ^ 11 := pow_mul 10 28 11
    _ ≤ (10098 / 10000 * 2 ^ (93 : ℕ)) ^ 11 :=
        pow_le_pow_left₀ (by positivity) (by norm_num) 11
    _ = (10098 / 10000) ^ 11 * 2 ^ 52 * 2 ^ Magnitude.greatestExponent := by
        rw [mul_pow, hexp, mul_assoc]
    _ < Magnitude.overflow := mul_lt_mul_of_pos_right (by norm_num) (Magnitude.two_zpow_pos _)

/-- What is scaled by is the magnitude nearest to the power of ten. -/
theorem tenTo_isNearest (hk : k ≤ greatestPower) : (tenTo k).IsNearest (10 ^ k) := by
  have hlt : (10 : ℚ) ^ k < Magnitude.overflow :=
    lt_of_le_of_lt (pow_le_pow_right₀ (by norm_num) hk) ten_pow_lt_overflow
  obtain ⟨a, ha⟩ := Magnitude.exists_isNearest (by positivity) hlt
  have hround : Magnitude.ofNat (Nat.pow 10 k) = some a := by
    rw [Magnitude.ofNat_eq_some_iff, Nat.pow_eq]
    push_cast
    exact ⟨hlt, ha⟩
  rwa [tenTo, hround, Option.getD_some]

theorem one_le_tenTo (hk : k ≤ greatestPower) : 1 ≤ (tenTo k).value := by
  obtain ⟨one, hone, hvalue⟩ :=
    Magnitude.exists_power (by decide : Magnitude.leastExponent ≤ 0) (by decide)
  rw [zpow_zero] at hvalue
  refine hvalue ▸ (tenTo_isNearest hk).value_ge_of_ge hone ?_
  rw [hvalue]
  exact one_le_pow₀ (by norm_num)

/-- A number that fits the mantissa once its powers of two are split off is
one of the format. -/
theorem exists_inFormat_mul_ten_pow {d : ℕ} (hnarrow : d * 5 ^ k < 2 ^ 53) (hk : k ≤ 22) :
    ∃ a : Magnitude, a.InFormat ∧ a.value = d * 10 ^ k := by
  have hleast : Magnitude.leastExponent ≤ k := by
    rw [Magnitude.leastExponent]
    omega
  have hgreatest : (k : ℤ) ≤ Magnitude.greatestExponent := by
    rw [Magnitude.greatestExponent]
    omega
  obtain ⟨a, ha, hvalue⟩ := Magnitude.exists_inFormat hnarrow hleast hgreatest
  refine ⟨a, ha, hvalue.trans ?_⟩
  rw [zpow_natCast]
  push_cast
  rw [mul_assoc, ← mul_pow]
  norm_num

/-- The first powers of ten are numbers of the format. -/
theorem tenTo_value (hk : k ≤ 22) : (tenTo k).value = 10 ^ k := by
  have hnarrow : 1 * 5 ^ k < 2 ^ 53 := by
    rw [Nat.one_mul]
    exact lt_of_le_of_lt (Nat.pow_le_pow_right (by decide) hk) (by norm_num)
  obtain ⟨a, ha, hvalue⟩ := exists_inFormat_mul_ten_pow hnarrow hk
  rw [Nat.cast_one, one_mul] at hvalue
  have hnear : a.IsNearest (10 ^ k) := hvalue ▸ ha.isNearest
  have hlarge : k ≤ greatestPower := hk.trans (by decide)
  rw [(tenTo_isNearest hlarge).unique hnear, hvalue]

/-- Nothing is scaled by the power zero. -/
theorem mul_tenTo_zero (hm : m.InFormat) : m.mul (tenTo 0) = some m := by
  rw [Magnitude.mul_eq_some_iff, tenTo_value (Nat.zero_le _), pow_zero, mul_one]
  exact ⟨hm.value_lt_overflow, hm.isNearest⟩

/-- A downward step has a result. -/
theorem exists_div_tenTo (hm : m.InFormat) (hk : k ≤ greatestPower) :
    ∃ a, m.div (tenTo k) = some a ∧ a.IsNearest (m.value / (tenTo k).value) := by
  have hone := one_le_tenTo hk
  have hpos : 0 < (tenTo k).value := lt_of_lt_of_le one_pos hone
  have hlt : m.value / (tenTo k).value < Magnitude.overflow :=
    lt_of_le_of_lt (div_le_self m.value_nonneg hone) hm.value_lt_overflow
  obtain ⟨a, ha⟩ := Magnitude.exists_isNearest (div_nonneg m.value_nonneg hpos.le) hlt
  exact ⟨a, (Magnitude.div_eq_some_iff hpos.ne').mpr ⟨hlt, ha⟩, ha⟩

theorem stepDown_inFormat (hm : m.InFormat) : (stepDown m).InFormat := by
  obtain ⟨a, ha, hnear⟩ := exists_div_tenTo hm (le_refl greatestPower)
  rw [stepDown, ha]
  exact hnear.inFormat

/-- Scaling down never leaves the format. -/
theorem exists_scale (hm : m.InFormat) (he : e ≤ 0) : ∃ a, scale m e = some a := by
  fun_induction scale m e with
  | case1 m e hsmall hpos =>
      obtain rfl : e = 0 := le_antisymm he hpos
      exact ⟨m, mul_tenTo_zero hm⟩
  | case2 m e hsmall hneg =>
      obtain ⟨a, ha, -⟩ := exists_div_tenTo hm hsmall
      exact ⟨a, ha⟩
  | case3 m e hlarge hzero => exact ⟨m, rfl⟩
  | case4 m e hlarge hzero hpos =>
      obtain rfl : e = 0 := le_antisymm he hpos
      exact absurd (Nat.zero_le _) hlarge
  | case5 m e hlarge hzero hneg ih =>
      have hpower : greatestPower < e.natAbs := not_le.mp hlarge
      exact ih (stepDown_inFormat hm) (by omega)

end Scale

section OfScaled

variable {m : Magnitude} {n k : ℕ} {e : ℤ}

theorem exists_ofNat (hn : n ≤ max64) : ∃ a, Magnitude.ofNat n = some a ∧ a.IsNearest n := by
  have hlt : (n : ℚ) < Magnitude.overflow := by
    have hbound : (n : ℚ) ≤ 10 ^ 20 := by
      exact_mod_cast hn.trans (by decide : max64 ≤ 10 ^ 20)
    exact lt_of_le_of_lt (hbound.trans (pow_le_pow_right₀ (by norm_num) (by decide)))
      ten_pow_lt_overflow
  obtain ⟨a, ha⟩ := Magnitude.exists_isNearest (Nat.cast_nonneg n) hlt
  exact ⟨a, Magnitude.ofNat_eq_some_iff.mpr ⟨hlt, ha⟩, ha⟩

/-- Digits behind the point never make a number unreadable. -/
theorem exists_ofScaled (negative : Bool) (hn : n ≤ max64) (he : e ≤ 0) :
    ∃ x, ofScaled negative n e = some (.float x) := by
  obtain ⟨m, hm, hnear⟩ := exists_ofNat hn
  obtain ⟨a, ha⟩ := exists_scale hnear.inFormat he
  refine ⟨⟨negative, a⟩, ?_⟩
  rw [ofScaled, hm, Option.getD_some, ha, Option.map_some]

/-- An exact significand is divided by an exact power of ten, and rounded
once. -/
theorem exists_scale_isNearest (hm : m.InFormat) (hk : k ≤ 22) :
    ∃ a, scale m (-k) = some a ∧ a.IsNearest (m.value / 10 ^ k) := by
  have hlarge : k ≤ greatestPower := hk.trans (by decide)
  have hsmall : (-k : ℤ).natAbs ≤ greatestPower := by rwa [Int.natAbs_neg, Int.natAbs_natCast]
  rw [scale, if_pos hsmall]
  cases k with
  | zero =>
      have hzero : (-((0 : ℕ) : ℤ)).toNat = 0 := rfl
      rw [if_pos (by simp), hzero, pow_zero, div_one]
      exact ⟨m, mul_tenTo_zero hm, hm.isNearest⟩
  | succ k =>
      obtain ⟨a, ha, hnear⟩ := exists_div_tenTo hm hlarge
      rw [if_neg (by omega), Int.natAbs_neg, Int.natAbs_natCast]
      rw [tenTo_value hk] at hnear
      exact ⟨a, ha, hnear⟩

theorem ofScaled_isNearest (negative : Bool) (hn : n ≤ max64)
    (hexact : ∃ m : Magnitude, m.InFormat ∧ m.value = n) (hk : k ≤ 22) :
    ∃ a : Magnitude, ofScaled negative n (-k) = some (.float ⟨negative, a⟩) ∧
      a.IsNearest (n * 10 ^ (-k : ℤ)) := by
  obtain ⟨m, hm, hvalue⟩ := hexact
  obtain ⟨b, hb, hnear⟩ := exists_ofNat hn
  obtain rfl : b = m := hnear.unique (hvalue ▸ hm.isNearest)
  obtain ⟨a, ha, hquotient⟩ := exists_scale_isNearest hm hk
  refine ⟨a, ?_, ?_⟩
  · rw [ofScaled, hb, Option.getD_some, ha, Option.map_some]
  · rwa [hvalue, div_eq_mul_inv, ← zpow_natCast, ← zpow_neg] at hquotient

theorem scale_zero (e : ℤ) : scale .zero e = some .zero := by
  rw [scale]
  split_ifs with hsmall hpos hzero
  · rw [Magnitude.mul, Magnitude.ratio, Magnitude.ofRatio, if_pos]
    exact Nat.mul_eq_zero.mpr (.inl (Nat.zero_mul _))
  · rw [Magnitude.div, Magnitude.ratio, Magnitude.ofRatio, if_pos]
    exact Nat.mul_eq_zero.mpr (.inl (Nat.zero_mul _))
  · rfl
  · exact absurd rfl hzero
  · exact absurd rfl hzero

theorem ofScaled_zero (negative : Bool) (e : ℤ) :
    ofScaled negative 0 e = some (.float ⟨negative, .zero⟩) := by
  have hzero : Magnitude.ofNat 0 = some .zero := rfl
  rw [ofScaled, hzero, Option.getD_some, scale_zero, Option.map_some]

end OfScaled

end Number

/-! ## Positional notation -/

section Positional

variable {whole fraction digits : List Char}

theorem positional_inside (hwhole : whole ≠ []) (hfraction : fraction ≠ []) :
    positional (whole ++ fraction) (whole.length - 1) = whole ++ '.' :: fraction := by
  have hlength := List.length_pos_iff.mpr hwhole
  have hwidth : ((whole.length : ℤ) - 1).toNat + 1 = whole.length := by omega
  have hshort : whole.length - (whole ++ fraction).length = 0 := by
    rw [List.length_append]
    omega
  simp only [positional, hwidth, hshort]
  rw [if_neg (by omega)]
  simp [hfraction]

theorem positional_round (hdigits : digits ≠ []) (zeros : ℕ) :
    positional digits (zeros + digits.length - 1) =
      digits ++ List.replicate zeros '0' ++ ['.', '0'] := by
  have hlength := List.length_pos_iff.mpr hdigits
  have hwidth : ((zeros : ℤ) + digits.length - 1).toNat + 1 = zeros + digits.length := by omega
  simp only [positional, hwidth]
  rw [if_neg (by omega), List.drop_of_length_le (by omega), List.take_of_length_le (by omega)]
  simp

theorem positional_small (digits : List Char) (zeros : ℕ) :
    positional digits (-zeros - 1) = '0' :: '.' :: (List.replicate zeros '0' ++ digits) := by
  have hzeros : (-(-(zeros : ℤ) - 1) - 1).toNat = zeros := by omega
  rw [positional, if_pos (by omega), hzeros]
  rfl

end Positional

theorem decimalText_eq_positional {c : ℕ} {g : ℤ} (hc : c ≠ 0)
    (hlow : (10 : ℚ) ^ (-5 : ℤ) ≤ c * 10 ^ g) (hhigh : (c : ℚ) * 10 ^ g < 10 ^ (15 : ℤ)) :
    decimalText ⟨c, g⟩ = positional (Nat.toDigits 10 c) (g + (Nat.toDigits 10 c).length - 1) := by
  obtain ⟨hfirst, hnext⟩ := Magnitude.lead_bounds hc g
  have hten : (1 : ℚ) < 10 := by norm_num
  have hleast := (zpow_lt_zpow_iff_right₀ hten).mp (lt_of_le_of_lt hlow hnext)
  have hgreatest := (zpow_lt_zpow_iff_right₀ hten).mp (lt_of_le_of_lt hfirst hhigh)
  have hform : decimalForm.leastPositional ≤ g + (Nat.toDigits 10 c).length - 1 ∧
      g + (Nat.toDigits 10 c).length - 1 ≤ decimalForm.greatestPositional := by
    simp only [decimalForm]
    omega
  simp only [decimalText, Decimal.digitChars, hform, and_self, if_true]

/-- A number is written as a decimal that it is the nearest number to, if
that has at most fifteen digits and is not too small. -/
theorem binaryText_of_isNearest {a : Magnitude} {c : ℕ} {g : ℤ} (hnear : a.IsNearest (c * 10 ^ g))
    (hlast : c % 10 ≠ 0) (hc : c < 10 ^ 15) (hlow : (10 : ℚ) ^ (-5 : ℤ) ≤ c * 10 ^ g)
    (hhigh : (c : ℚ) * 10 ^ g < 10 ^ (15 : ℤ)) :
    binaryText ⟨false, a⟩ =
      positional (Nat.toDigits 10 c) (g + (Nat.toDigits 10 c).length - 1) := by
  have hshortest := Magnitude.shortest_eq hnear hlast hc hlow hhigh
  have hpositive : a.isZero = false := by
    have hvalue := (hnear.ordinary (le_trans (by norm_num) hlow)
      (hhigh.le.trans (by norm_num))).low
    rw [Magnitude.isZero, beq_eq_false_iff_ne]
    intro hzero
    rw [Magnitude.value, hzero, Nat.cast_zero, zero_mul] at hvalue
    exact absurd hvalue (not_le.mpr (Magnitude.two_zpow_pos _))
  have hnonzero : c ≠ 0 := fun hzero => hlast (by rw [hzero])
  rw [binaryText, hpositive, hshortest, decimalText_eq_positional hnonzero hlow hhigh]
  rfl

theorem cast_mul_pow_mul_zpow (c j k : ℕ) :
    ((c * 10 ^ j : ℕ) : ℚ) * 10 ^ (-k : ℤ) = c * 10 ^ ((j : ℤ) - k) := by
  push_cast
  rw [mul_assoc, ← zpow_natCast, ← zpow_add₀ (by norm_num), ← sub_eq_add_neg]

/-- The text of a number that was read from at most fifteen digits with a
point among them. -/
theorem ofScaled_text {c j k : ℕ} (hlast : c % 10 ≠ 0) (hsig : c * 10 ^ j < 10 ^ 15)
    (hlow : (10 : ℚ) ^ (-5 : ℤ) ≤ c * 10 ^ ((j : ℤ) - k)) :
    ∃ x, Number.ofScaled false (c * 10 ^ j) (-k) = some (.float x) ∧
      binaryText x =
        positional (Nat.toDigits 10 c) ((j : ℤ) - k + (Nat.toDigits 10 c).length - 1) := by
  have hten : (10 : ℚ) ≠ 0 := by norm_num
  have hsigq : (c : ℚ) * 10 ^ (j : ℤ) < 10 ^ (15 : ℤ) := by exact_mod_cast hsig
  have hhigh : (c : ℚ) * 10 ^ ((j : ℤ) - k) < 10 ^ (15 : ℤ) :=
    lt_of_le_of_lt (mul_le_mul_of_nonneg_left
      (zpow_le_zpow_right₀ (by norm_num) (by omega)) (Nat.cast_nonneg c)) hsigq
  have hkSmall : k ≤ 22 := by
    have hshift : (c : ℚ) * 10 ^ ((j : ℤ) - k) < 10 ^ ((15 : ℤ) - k) := by
      rw [zpow_sub₀ hten, zpow_sub₀ hten, ← mul_div_assoc]
      exact div_lt_div_of_pos_right hsigq (Magnitude.ten_zpow_pos _)
    have hexp := (zpow_lt_zpow_iff_right₀ (by norm_num : (1 : ℚ) < 10)).mp
      (lt_of_le_of_lt hlow hshift)
    omega
  have hexact : ∃ m : Magnitude, m.InFormat ∧ m.value = (c * 10 ^ j : ℕ) := by
    have hnarrow : c * 10 ^ j * 5 ^ 0 < 2 ^ 53 := by
      rw [pow_zero, mul_one]
      exact hsig.trans (by norm_num)
    simpa using Number.exists_inFormat_mul_ten_pow hnarrow (Nat.zero_le _)
  have hfits : c * 10 ^ j ≤ max64 := hsig.le.trans (by decide)
  obtain ⟨a, hread, hnear⟩ := Number.ofScaled_isNearest false hfits hexact hkSmall
  rw [cast_mul_pow_mul_zpow] at hnear
  have hc : c < 10 ^ 15 := lt_of_le_of_lt (Nat.le_mul_of_pos_right c (by positivity)) hsig
  exact ⟨_, hread, binaryText_of_isNearest hnear hlast hc hlow hhigh⟩

/-- A digit with zeros behind the point, as many as fit 64 bits, is exact at
every step. -/
theorem ofScaled_digit {d k : ℕ} (hd : d % 10 ≠ 0) (hsmall : d < 10)
    (hfits : d * 10 ^ k ≤ max64) :
    ∃ x, Number.ofScaled false (d * 10 ^ k) (-k) = some (.float x) ∧
      binaryText x = [Nat.digitChar d, '.', '0'] := by
  have hpos : 1 ≤ d := by omega
  have hkSmall : k ≤ 19 := by
    by_contra hlarge
    have hpow := Nat.pow_le_pow_right (by decide : 0 < 10) (not_le.mp hlarge)
    have hbound : 10 ^ 20 ≤ max64 := by
      calc 10 ^ 20 ≤ 10 ^ k := hpow
        _ ≤ d * 10 ^ k := Nat.le_mul_of_pos_left _ hpos
        _ ≤ max64 := hfits
    exact absurd hbound (by decide)
  have hexact : ∃ m : Magnitude, m.InFormat ∧ m.value = (d * 10 ^ k : ℕ) := by
    have hnarrow : d * 5 ^ k < 2 ^ 53 := by
      calc d * 5 ^ k ≤ 9 * 5 ^ 19 :=
            Nat.mul_le_mul (by omega) (Nat.pow_le_pow_right (by decide) hkSmall)
        _ < 2 ^ 53 := by norm_num
    simpa using Number.exists_inFormat_mul_ten_pow hnarrow (hkSmall.trans (by decide))
  obtain ⟨a, hread, hnear⟩ :=
    Number.ofScaled_isNearest false hfits hexact (hkSmall.trans (by decide))
  rw [cast_mul_pow_mul_zpow, sub_self] at hnear
  have hone : (1 : ℚ) ≤ d * 10 ^ (0 : ℤ) := by
    rw [zpow_zero, mul_one]
    exact_mod_cast hpos
  have hten : (d : ℚ) * 10 ^ (0 : ℤ) < 10 := by
    rw [zpow_zero, mul_one]
    exact_mod_cast hsmall
  refine ⟨_, hread, ?_⟩
  rw [binaryText_of_isNearest hnear hd (by omega) (le_trans (by norm_num) hone)
    (hten.trans (by norm_num)), Nat.toDigits_of_lt_base hsmall]
  exact positional_round (List.cons_ne_nil _ _) 0

/-! ## Decimals -/

/-- Digits without a leading zero, or a single zero. -/
def IsWholePart (text : List Char) : Prop :=
  text = ['0'] ∨ text ≠ [] ∧ AllDigits text ∧ text.head? ≠ some '0'

instance (text : List Char) : Decidable (IsWholePart text) :=
  inferInstanceAs (Decidable (_ ∨ _))

theorem IsWholePart.ne_nil {text : List Char} (h : IsWholePart text) : text ≠ [] := by
  rcases h with rfl | ⟨hne, -⟩
  · exact List.cons_ne_nil _ _
  · exact hne

theorem IsWholePart.allDigits {text : List Char} (h : IsWholePart text) : AllDigits text := by
  rcases h with rfl | ⟨-, hdigits, -⟩
  · exact List.forall_mem_singleton.mpr rfl
  · exact hdigits

section DecimalText

variable {whole fraction : List Char} {zeros : ℕ}

theorem valueOf_append_mod_ten (hdigits : AllDigits (whole ++ fraction)) (hne : fraction ≠ [])
    (hlast : fraction.getLast? ≠ some '0') : valueOf (whole ++ fraction) % 10 ≠ 0 := by
  rw [← List.getLast?_append_of_ne_nil whole hne] at hlast
  exact valueOf_mod_ten hdigits (List.append_ne_nil_of_right_ne_nil whole hne) hlast

/-- With the point as far before their end as the fraction is long, the
digits of the number are written as the literal was. Zeros that the literal
has right behind its point are no digits of the number; it is the place of
the point that brings them back. -/
theorem positional_toDigits (hwhole : IsWholePart whole) (hfraction : AllDigits fraction)
    (hne : fraction ≠ []) (hlast : fraction.getLast? ≠ some '0') :
    positional (Nat.toDigits 10 (valueOf (whole ++ fraction)))
        (-fraction.length + (Nat.toDigits 10 (valueOf (whole ++ fraction))).length - 1) =
      whole ++ '.' :: fraction := by
  rcases hwhole with rfl | ⟨hwholeNe, hdigits, hhead⟩
  · obtain ⟨small, rest, rfl, hrest⟩ := exists_leading_zeros fraction
    have hrestNe : rest ≠ [] := by
      rintro rfl
      obtain ⟨small, rfl⟩ := Nat.exists_eq_succ_of_ne_zero (n := small) (by simpa using hne)
      simp [List.replicate_succ'] at hlast
    have hvalue : valueOf (['0'] ++ (List.replicate small '0' ++ rest)) = valueOf rest := by
      rw [← List.append_assoc, ← List.replicate_one, ← List.replicate_add, valueOf_zeros_append]
    have hrestDigits : AllDigits rest := fun c hc => hfraction c (List.mem_append_right _ hc)
    have hlead : -((List.replicate small '0' ++ rest).length : ℤ) + rest.length - 1 =
        -small - 1 := by
      rw [List.length_append, List.length_replicate]
      push_cast
      ring
    rw [hvalue, toDigits_valueOf hrestDigits hrestNe hrest, hlead, positional_small]
    rfl
  · have hheadBoth : (whole ++ fraction).head? ≠ some '0' := by
      rwa [List.head?_append_of_ne_nil _ hwholeNe]
    have hlead : -(fraction.length : ℤ) + (whole ++ fraction).length - 1 = whole.length - 1 := by
      rw [List.length_append]
      push_cast
      ring
    rw [toDigits_valueOf (hdigits.append hfraction) (by simp [hne]) hheadBoth, hlead,
      positional_inside hwholeNe hne]

/-- The point stands among the digits of the number. -/
theorem ofScaled_text_of_fraction (hwhole : IsWholePart whole) (hfraction : AllDigits fraction)
    (hne : fraction ≠ []) (hlast : fraction.getLast? ≠ some '0')
    (hsig : valueOf (whole ++ fraction) * 10 ^ zeros < 10 ^ 15)
    (hlow : (10 : ℚ) ^ (-5 : ℤ) ≤ valueOf (whole ++ fraction) * 10 ^ (-fraction.length : ℤ)) :
    ∃ x, Number.ofScaled false (valueOf (whole ++ fraction) * 10 ^ zeros)
        (-(fraction.length + zeros : ℕ)) = some (.float x) ∧
      binaryText x = whole ++ '.' :: fraction := by
  have hmod := valueOf_append_mod_ten (hwhole.allDigits.append hfraction) hne hlast
  have hscale : (zeros : ℤ) - (fraction.length + zeros : ℕ) = -fraction.length := by
    push_cast
    ring
  rw [← hscale] at hlow
  obtain ⟨x, hread, htext⟩ := ofScaled_text hmod hsig hlow
  rw [hscale, positional_toDigits hwhole hfraction hne hlast] at htext
  exact ⟨x, hread, htext⟩

/-- The number is whole. -/
theorem ofScaled_text_of_zeros (hwhole : whole ≠ []) (hdigits : AllDigits whole)
    (hhead : whole.head? ≠ some '0') (hsig : valueOf whole * 10 ^ zeros < 10 ^ 15) :
    ∃ x, Number.ofScaled false (valueOf whole * 10 ^ zeros) (-zeros) = some (.float x) ∧
      binaryText x = whole ++ ['.', '0'] := by
  obtain ⟨digits, more, rfl, hlast⟩ := exists_trailing_zeros whole
  have hne : digits ≠ [] := by
    rintro rfl
    obtain ⟨more, rfl⟩ := Nat.exists_eq_succ_of_ne_zero (by simpa using hwhole)
    simp [List.replicate_succ] at hhead
  have hfront : AllDigits digits := fun c hc => hdigits c (List.mem_append_left _ hc)
  have hmod := valueOf_mod_ten hfront hne hlast
  rw [List.head?_append_of_ne_nil _ hne] at hhead
  have hshift : valueOf (digits ++ List.replicate more '0') * 10 ^ zeros =
      valueOf digits * 10 ^ (more + zeros) := by
    rw [valueOf_append_zeros, Nat.pow_add, Nat.mul_assoc]
  have hscale : ((more + zeros : ℕ) : ℤ) - zeros = more := by
    push_cast
    ring
  have hlow : (10 : ℚ) ^ (-5 : ℤ) ≤ valueOf digits * 10 ^ (((more + zeros : ℕ) : ℤ) - zeros) := by
    have hone : (1 : ℚ) ≤ valueOf digits := by
      exact_mod_cast Nat.one_le_iff_ne_zero.mpr fun hzero => hmod (by rw [hzero])
    have hpow : (1 : ℚ) ≤ 10 ^ (more : ℤ) := one_le_zpow₀ (by norm_num) (by omega)
    rw [hscale]
    exact le_trans (by norm_num) (one_le_mul_of_one_le_of_one_le hone hpow)
  rw [hshift] at hsig ⊢
  obtain ⟨x, hread, htext⟩ := ofScaled_text hmod hsig hlow
  refine ⟨x, hread, htext.trans ?_⟩
  rw [hscale, toDigits_valueOf hfront hne hhead, positional_round hne]

/-- A decimal of at most fifteen digits that is zero or not below `0.00001`
is written again without its trailing zeros, of which one stays behind the
point if nothing else does. -/
theorem exists_ofScaled_text (hwhole : IsWholePart whole) (hfraction : AllDigits fraction)
    (hlast : fraction.getLast? ≠ some '0')
    (hsig : valueOf (whole ++ fraction) * 10 ^ zeros < 10 ^ 15)
    (hlow : valueOf (whole ++ fraction) = 0 ∨
      1 / 10 ^ 5 ≤ (valueOf (whole ++ fraction) : ℚ) / 10 ^ fraction.length) :
    ∃ x, Number.ofScaled false (valueOf (whole ++ fraction) * 10 ^ zeros)
        (-(fraction.length + zeros : ℕ)) = some (.float x) ∧
      binaryText x = whole ++ '.' :: (if fraction = [] then ['0'] else fraction) := by
  by_cases hne : fraction = []
  · subst hne
    rw [if_pos rfl, List.append_nil] at *
    rw [List.length_nil, Nat.zero_add] at *
    rcases hwhole with rfl | ⟨hwholeNe, hdigits, hhead⟩
    · have hzero : valueOf ['0'] * 10 ^ zeros = 0 := by
        rw [valueOf_singleton, Nat.sub_self, Nat.zero_mul]
      rw [hzero, Number.ofScaled_zero]
      exact ⟨_, rfl, rfl⟩
    · exact ofScaled_text_of_zeros hwholeNe hdigits hhead hsig
  · rw [if_neg hne]
    have hmod := valueOf_append_mod_ten (hwhole.allDigits.append hfraction) hne hlast
    have hvalue := hlow.resolve_left fun hzero => hmod (by rw [hzero])
    refine ofScaled_text_of_fraction hwhole hfraction hne hlast hsig ?_
    rw [zpow_neg, zpow_neg, zpow_natCast, ← div_eq_mul_inv, ← one_div]
    exact_mod_cast hvalue

end DecimalText

end Json

end UploadHooks
