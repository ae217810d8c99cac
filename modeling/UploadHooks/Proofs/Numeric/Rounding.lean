import Mathlib.Algebra.Order.Field.Power
import Mathlib.Data.Rat.Cast.Order
import Mathlib.Tactic.FieldSimp
import Mathlib.Tactic.Linarith
import Mathlib.Tactic.NormNum
import Mathlib.Tactic.Positivity
import Mathlib.Tactic.Ring
import UploadHooks.Numeric.Binary64

/-!
# Rounding to the nearest

Quotients are rounded to natural numbers and to magnitudes of the 64-bit
format. What either should be is said by distance alone: no other number
of the kind is nearer, and of two that are as near the even one is taken
(`IsNearest`, `Magnitude.IsNearest`). Quotients from half a last place
beyond the largest magnitude on have no nearest one (`overflow`).

The rounding functions compute just that. For magnitudes the reason is in
`exponentOf_spec`: in units of the chosen power of two the quotient lies
between `2 ^ 52` and `2 ^ 53`, so magnitudes with that exponent or a larger
one are natural numbers there, and those with a smaller one lie below all
of that range. Rounding to a natural number in these units is therefore
rounding to a magnitude (`ofRatio_isNearest`), and there is only one that
is nearest (`ofRatio_eq_some_iff`).
-/

namespace UploadHooks

namespace Numeric

/-- What lies strictly between two numbers that are as near to `q` is nearer. -/
theorem abs_sub_lt_of_between {q x y z : ℚ} (hxy : x < y) (hyz : y < z)
    (h : |q - x| = |q - z|) : |q - y| < |q - x| := by
  have hmiddle : q - x = z - q := by
    rcases abs_eq_abs.mp h with heq | heq <;> linarith
  rw [abs_lt, abs_of_pos (by linarith)]
  constructor <;> linarith

/-! ## Natural numbers -/

/-- The number is as near to `q` as any natural number, and even if another
one is as near. -/
structure IsNearest (q : ℚ) (n : ℕ) : Prop where
  le : ∀ k : ℕ, |q - n| ≤ |q - k|
  even : ∀ k : ℕ, k ≠ n → |q - k| = |q - n| → n % 2 = 0

section Natural

variable {q : ℚ} {n k : ℕ}

theorem one_le_abs_sub_of_ne (h : k ≠ n) : 1 ≤ |(k : ℚ) - n| := by
  have hint : (1 : ℤ) ≤ |(k : ℤ) - n| := Int.one_le_abs (by omega)
  exact_mod_cast hint

/-- Another number is at least the rest of the way away. -/
theorem one_sub_le_of_ne (h : k ≠ n) : 1 - |q - n| ≤ |q - k| := by
  have hgap := one_le_abs_sub_of_ne h
  have htriangle : |(k : ℚ) - n| ≤ |q - n| + |q - k| := by
    rw [abs_sub_comm q k, add_comm]
    exact abs_sub_le (k : ℚ) q n
  linarith

/-- Of two even numbers that are as near, an odd one in between is nearer. -/
theorem IsNearest.le_of_isNearest (hn : IsNearest q n) (hk : IsNearest q k) : k ≤ n := by
  by_contra hnot
  have hlt := not_le.mp hnot
  have htie : |q - n| = |q - k| := le_antisymm (hn.le k) (hk.le n)
  have hneven := hn.even k hlt.ne' htie.symm
  have hkeven := hk.even n hlt.ne htie
  have hbelow : (n : ℚ) < (n + 1 : ℕ) := by exact_mod_cast Nat.lt_succ_self n
  have habove : ((n + 1 : ℕ) : ℚ) < k := by exact_mod_cast (by omega : n + 1 < k)
  exact absurd (hn.le (n + 1)) (not_le.mpr (abs_sub_lt_of_between hbelow habove htie))

/-- At most one natural number is the nearest. -/
theorem IsNearest.unique (hn : IsNearest q n) (hk : IsNearest q k) : n = k :=
  le_antisymm (hk.le_of_isNearest hn) (hn.le_of_isNearest hk)

/-- Half a unit is the farthest that the nearest number can be. Farther off,
its neighbour on that side would be nearer. -/
theorem isNearest_iff (hq : 0 ≤ q) :
    IsNearest q n ↔ |q - n| ≤ 1 / 2 ∧ (|q - n| = 1 / 2 → n % 2 = 0) := by
  constructor
  · intro h
    have hneighbour : ∃ k : ℕ, k ≠ n ∧ |q - k| = abs (1 - |q - n|) := by
      rcases le_or_gt (n : ℚ) q with hle | hlt
      · refine ⟨n + 1, by omega, ?_⟩
        rw [abs_of_nonneg (sub_nonneg.mpr hle), abs_sub_comm]
        push_cast
        congr 1
        ring
      · have hpos : 0 < n := by
          have hcast : (0 : ℚ) < n := lt_of_le_of_lt hq hlt
          exact_mod_cast hcast
        refine ⟨n - 1, by omega, ?_⟩
        rw [abs_of_neg (sub_neg.mpr hlt), Nat.cast_sub hpos]
        push_cast
        congr 1
        ring
    obtain ⟨k, hk, hdist⟩ := hneighbour
    have hle := h.le k
    rw [hdist] at hle
    have hhalf : |q - n| ≤ 1 / 2 := by
      rcases abs_cases (1 - |q - n|) with ⟨heq, -⟩ | ⟨heq, -⟩ <;> linarith
    refine ⟨hhalf, fun heq => h.even k hk ?_⟩
    rw [hdist, heq]
    norm_num
  · rintro ⟨hhalf, htie⟩
    refine ⟨fun k => ?_, fun k hk heq => htie ?_⟩
    · by_cases hk : k = n
      · rw [hk]
      · have hfar := one_sub_le_of_ne (q := q) hk
        linarith
    · have hfar := one_sub_le_of_ne (q := q) hk
      linarith

/-- Rounding does not pass a natural number. -/
theorem IsNearest.le_of_le (h : IsNearest q n) (hle : q ≤ k) : n ≤ k := by
  by_contra hlt
  have hkn : (k : ℚ) < n := by exact_mod_cast not_le.mp hlt
  have hnear := h.le k
  rw [abs_sub_comm, abs_of_nonneg (by linarith), abs_sub_comm, abs_of_nonneg (by linarith)] at hnear
  linarith

theorem IsNearest.le_of_ge (h : IsNearest q n) (hle : k ≤ q) : k ≤ n := by
  by_contra hlt
  have hkn : (n : ℚ) < k := by exact_mod_cast not_le.mp hlt
  have hnear := h.le k
  rw [abs_of_nonneg (by linarith), abs_of_nonneg (by linarith)] at hnear
  linarith

/-- The quotient is a natural number and a part of one, and the rounding
goes by that part. -/
theorem roundHalfEven_isNearest (num : ℕ) {den : ℕ} (hden : 0 < den) :
    IsNearest ((num : ℚ) / den) (roundHalfEven num den) := by
  have hdenq : (0 : ℚ) < den := by exact_mod_cast hden
  obtain ⟨part, hpart⟩ : ∃ part : ℚ, part = ((num % den : ℕ) : ℚ) / den := ⟨_, rfl⟩
  have hsum : (num : ℚ) / den = (num / den : ℕ) + part := by
    have hsplit : (num : ℚ) = den * (num / den : ℕ) + (num % den : ℕ) := by
      exact_mod_cast (Nat.div_add_mod num den).symm
    rw [hpart, div_eq_iff hdenq.ne', add_mul, div_mul_cancel₀ _ hdenq.ne', hsplit]
    ring
  have hnonneg : 0 ≤ part := hpart ▸ by positivity
  rw [isNearest_iff (by positivity), hsum, roundHalfEven]
  split_ifs with hdown hup heven
  · have hlt : part < 1 / 2 := by
      rw [hpart, div_lt_div_iff₀ hdenq two_pos]
      exact_mod_cast (by omega : num % den * 2 < 1 * den)
    rw [add_sub_cancel_left, abs_of_nonneg hnonneg]
    exact ⟨hlt.le, fun heq => absurd heq hlt.ne⟩
  · have hgt : 1 / 2 < part := by
      rw [hpart, div_lt_div_iff₀ two_pos hdenq]
      exact_mod_cast (by omega : 1 * den < num % den * 2)
    have hle : part ≤ 1 := by
      rw [hpart, div_le_one hdenq]
      exact_mod_cast (Nat.mod_lt num hden).le
    push_cast
    rw [add_sub_add_left_eq_sub, abs_sub_comm, abs_of_nonneg (by linarith)]
    exact ⟨by linarith, fun heq => absurd heq (by linarith)⟩
  all_goals
    have hhalf : part = 1 / 2 := by
      rw [hpart, div_eq_div_iff hdenq.ne' two_ne_zero]
      exact_mod_cast (by omega : num % den * 2 = 1 * den)
    rw [hhalf]
  · rw [add_sub_cancel_left, abs_of_nonneg (by norm_num)]
    exact ⟨le_rfl, fun _ => heven⟩
  · push_cast
    rw [add_sub_add_left_eq_sub]
    norm_num
    omega

/-- A whole number is the nearest one to itself. -/
theorem isNearest_self (n : ℕ) : IsNearest n n := by
  refine ⟨fun k => ?_, fun k hne htie => ?_⟩
  · rw [sub_self, abs_zero]
    exact abs_nonneg _
  · rw [sub_self, abs_zero, abs_eq_zero, sub_eq_zero] at htie
    exact absurd (Nat.cast_injective htie).symm hne

/-- There is a nearest natural number to whatever is not below zero. -/
theorem exists_isNearest_nat (hq : 0 ≤ q) : ∃ n : ℕ, IsNearest q n := by
  obtain ⟨num, hnum⟩ := Int.eq_ofNat_of_zero_le (Rat.num_nonneg.mpr hq)
  have hratio : q = (num : ℚ) / q.den := by
    rw [← Int.cast_natCast, ← hnum, Rat.num_div_den]
  have hnearest := roundHalfEven_isNearest num q.den_pos
  rw [← hratio] at hnearest
  exact ⟨_, hnearest⟩

end Natural

/-! ## Magnitudes -/

namespace Magnitude

/-- The number that a magnitude is. -/
def value (a : Magnitude) : ℚ := a.mantissa * (2 : ℚ) ^ a.exponent

/-- The magnitudes of the 64-bit format: the mantissa has its full width
unless the exponent is the least one. -/
structure InFormat (a : Magnitude) : Prop where
  narrow : a.mantissa < mantissaLimit
  full : 2 ^ 52 ≤ a.mantissa ∨ a.exponent = leastExponent
  least : leastExponent ≤ a.exponent
  greatest : a.exponent ≤ greatestExponent

/-- No magnitude of the format is nearer to `q`, and the mantissa is even if
another one is as near. -/
structure IsNearest (q : ℚ) (a : Magnitude) : Prop where
  inFormat : a.InFormat
  le : ∀ b : Magnitude, b.InFormat → |q - a.value| ≤ |q - b.value|
  even : ∀ b : Magnitude, b.InFormat → b ≠ a → |q - b.value| = |q - a.value| →
    a.mantissa % 2 = 0

/-- Halfway between the largest magnitude and the one that would follow. -/
def overflow : ℚ := (2 ^ 53 - 1 / 2) * 2 ^ greatestExponent

theorem two_zpow_pos (e : ℤ) : (0 : ℚ) < 2 ^ e := zpow_pos two_pos e

theorem overflow_pos : 0 < overflow := mul_pos (by norm_num) (two_zpow_pos _)

theorem double_zpow (e : ℤ) : (2 : ℚ) ^ 53 * 2 ^ e = 2 ^ 52 * 2 ^ (e + 1) := by
  rw [zpow_add_one₀ two_ne_zero]
  ring

theorem value_nonneg (a : Magnitude) : 0 ≤ a.value :=
  mul_nonneg (Nat.cast_nonneg _) (two_zpow_pos _).le

/-- A magnitude is a natural number in any smaller unit. -/
theorem value_eq_of_le {a : Magnitude} {e : ℤ} (h : e ≤ a.exponent) :
    a.value = ((a.mantissa * 2 ^ (a.exponent - e).toNat : ℕ) : ℚ) * 2 ^ e := by
  have hexp : a.exponent = ((a.exponent - e).toNat : ℤ) + e := by omega
  rw [value, hexp, zpow_add₀ two_ne_zero, zpow_natCast]
  push_cast
  have hsame : (((a.exponent - e).toNat : ℤ) + e - e).toNat = (a.exponent - e).toNat := by omega
  rw [hsame]
  ring

section InFormat

variable {a b : Magnitude}

/-- Magnitudes with a smaller exponent are smaller than all the full ones. -/
theorem InFormat.value_lt_of_exponent_lt (ha : a.InFormat) {e : ℤ} (h : a.exponent < e) :
    a.value < 2 ^ 52 * 2 ^ e := by
  have hmantissa : (a.mantissa : ℚ) < 2 ^ 53 := by exact_mod_cast ha.narrow
  calc a.value < 2 ^ 53 * 2 ^ a.exponent :=
        mul_lt_mul_of_pos_right hmantissa (two_zpow_pos _)
    _ = 2 ^ 52 * 2 ^ (a.exponent + 1) := double_zpow _
    _ ≤ 2 ^ 52 * 2 ^ e := by
        have hexp : (2 : ℚ) ^ (a.exponent + 1) ≤ 2 ^ e :=
          zpow_le_zpow_right₀ one_le_two (by omega)
        linarith

theorem InFormat.value_lt_value (ha : a.InFormat) (hb : b.InFormat)
    (h : a.exponent < b.exponent) : a.value < b.value := by
  have hfull : 2 ^ 52 ≤ b.mantissa := by
    rcases hb.full with hfull | hleast
    · exact hfull
    · exact absurd ha.least (by omega)
  have hfullq : (2 : ℚ) ^ 52 ≤ b.mantissa := by exact_mod_cast hfull
  exact lt_of_lt_of_le (ha.value_lt_of_exponent_lt h)
    (mul_le_mul_of_nonneg_right hfullq (two_zpow_pos _).le)

theorem InFormat.exponent_le_of_value_le (ha : a.InFormat) (hb : b.InFormat)
    (h : a.value ≤ b.value) : a.exponent ≤ b.exponent := by
  by_contra hlt
  exact absurd (hb.value_lt_value ha (by omega)) (by linarith)

/-- A number has at most one form. -/
theorem InFormat.eq_of_value_eq (ha : a.InFormat) (hb : b.InFormat) (h : a.value = b.value) :
    a = b := by
  have hexp : a.exponent = b.exponent :=
    le_antisymm (ha.exponent_le_of_value_le hb h.le) (hb.exponent_le_of_value_le ha h.ge)
  have hmantissa : (a.mantissa : ℚ) = b.mantissa := by
    rw [value, value, hexp] at h
    exact mul_right_cancel₀ (two_zpow_pos _).ne' h
  obtain ⟨m, e⟩ := a
  obtain ⟨n, f⟩ := b
  simp only [Nat.cast_inj] at hmantissa hexp
  rw [hmantissa, hexp]

/-- The next magnitude after one with an even mantissa. Two magnitudes with
even mantissas have it between them, since in units of the smaller exponent
both are natural numbers. -/
theorem InFormat.exists_between (ha : a.InFormat) (hb : b.InFormat) (hlt : a.value < b.value)
    (haeven : a.mantissa % 2 = 0) (hbeven : b.mantissa % 2 = 0) :
    ∃ c : Magnitude, c.InFormat ∧ a.value < c.value ∧ c.value < b.value := by
  have hnarrow := ha.narrow
  have hodd : a.mantissa + 1 < mantissaLimit := by
    rw [mantissaLimit, Nat.pow_eq] at *
    omega
  have hc : InFormat ⟨a.mantissa + 1, a.exponent⟩ :=
    ⟨hodd, ha.full.imp_left fun h => by simp only; omega, ha.least, ha.greatest⟩
  refine ⟨⟨a.mantissa + 1, a.exponent⟩, hc, ?_, lt_of_le_of_ne ?_ fun heq => ?_⟩
  · simp only [value]
    push_cast
    have hunit := two_zpow_pos a.exponent
    linarith
  · have hexp := ha.exponent_le_of_value_le hb hlt.le
    rw [value_eq_of_le hexp] at hlt ⊢
    rw [value, mul_lt_mul_iff_left₀ (two_zpow_pos _)] at hlt
    have hstep : a.mantissa + 1 ≤ b.mantissa * 2 ^ (b.exponent - a.exponent).toNat := by
      exact_mod_cast hlt
    exact mul_le_mul_of_nonneg_right (by exact_mod_cast hstep) (two_zpow_pos _).le
  · have hsame := hc.eq_of_value_eq hb heq
    rw [← hsame] at hbeven
    simp only at hbeven
    omega

end InFormat

section Nearest

variable {q : ℚ} {a b : Magnitude}

theorem IsNearest.value_le (ha : a.IsNearest q) (hb : b.IsNearest q) : b.value ≤ a.value := by
  by_contra hnot
  have hlt := not_le.mp hnot
  have hne : b ≠ a := by
    rintro rfl
    exact lt_irrefl _ hlt
  have htie : |q - a.value| = |q - b.value| :=
    le_antisymm (ha.le b hb.inFormat) (hb.le a ha.inFormat)
  obtain ⟨c, hc, hac, hcb⟩ := ha.inFormat.exists_between hb.inFormat hlt
    (ha.even b hb.inFormat hne htie.symm) (hb.even a ha.inFormat hne.symm htie)
  exact absurd (ha.le c hc) (not_le.mpr (abs_sub_lt_of_between hac hcb htie))

/-- At most one magnitude is the nearest. -/
theorem IsNearest.unique (ha : a.IsNearest q) (hb : b.IsNearest q) : a = b :=
  ha.inFormat.eq_of_value_eq hb.inFormat (le_antisymm (hb.value_le ha) (ha.value_le hb))

/-- It is enough to round to a natural number in units of a power of two
that leave the mantissa its full width. -/
theorem isNearest_of_units {e : ℤ} {m : ℕ} (hfull : 2 ^ 52 ≤ q / 2 ^ e ∨ e = leastExponent)
    (hm : Numeric.IsNearest (q / 2 ^ e) m) (ha : a.InFormat) (hvalue : a.value = m * 2 ^ e)
    (hparity : m % 2 = 0 → a.mantissa % 2 = 0) : a.IsNearest q := by
  have hunit := two_zpow_pos e
  have hscale (x : ℚ) : |q - x * 2 ^ e| = |q / 2 ^ e - x| * 2 ^ e := by
    rw [← abs_of_pos hunit, ← abs_mul, abs_of_pos hunit, sub_mul, div_mul_cancel₀ _ hunit.ne']
  have hbelow {b : Magnitude} (hb : b.InFormat) (hexp : b.exponent < e) :
      |q - a.value| < |q - b.value| := by
    have hwide : (2 : ℚ) ^ 52 ≤ q / 2 ^ e := by
      rcases hfull with hfull | hleast
      · exact hfull
      · exact absurd hb.least (by omega)
    have hb52 := hb.value_lt_of_exponent_lt hexp
    have hq52 : (2 : ℚ) ^ 52 * 2 ^ e ≤ q := (le_div_iff₀ hunit).mp hwide
    calc |q - a.value| ≤ |q - 2 ^ 52 * 2 ^ e| := by
          rw [hvalue, hscale, hscale]
          have hnear := hm.le (2 ^ 52)
          push_cast at hnear
          exact mul_le_mul_of_nonneg_right hnear hunit.le
      _ < |q - b.value| := by
          rw [abs_of_nonneg (by linarith), abs_of_nonneg (by linarith)]
          linarith
  refine ⟨ha, fun b hb => ?_, fun b hb hne htie => ?_⟩
  · rcases lt_or_ge b.exponent e with hexp | hexp
    · exact (hbelow hb hexp).le
    · rw [hvalue, value_eq_of_le hexp, hscale, hscale]
      exact mul_le_mul_of_nonneg_right (hm.le _) hunit.le
  · rcases lt_or_ge b.exponent e with hexp | hexp
    · exact absurd htie (hbelow hb hexp).ne'
    · refine hparity (hm.even (b.mantissa * 2 ^ (b.exponent - e).toNat) ?_ ?_)
      · intro heq
        exact hne (hb.eq_of_value_eq ha (by rw [hvalue, value_eq_of_le hexp, heq]))
      · rw [hvalue, value_eq_of_le hexp, hscale, hscale] at htie
        exact mul_right_cancel₀ hunit.ne' htie

end Nearest

/-! ## Rounding to a magnitude -/

section Power

variable (base : ℕ) (e : ℤ)

theorem power_pos (h : 0 < base) : 0 < (power base e).1 ∧ 0 < (power base e).2 :=
  ⟨Nat.pow_pos h, Nat.pow_pos h⟩

theorem power_eq (h : 0 < base) :
    ((power base e).1 : ℚ) / ((power base e).2 : ℚ) = (base : ℚ) ^ e := by
  have hbase : (base : ℚ) ≠ 0 := by exact_mod_cast h.ne'
  simp only [power, Nat.pow_eq, Nat.cast_pow]
  rw [← zpow_natCast, ← zpow_natCast, ← zpow_sub₀ hbase]
  congr 1
  omega

end Power

theorem ratio_pos (a : Magnitude) : 0 < a.ratio.2 := (power_pos 2 _ two_pos).2

theorem ratio_eq (a : Magnitude) : (a.ratio.1 : ℚ) / (a.ratio.2 : ℚ) = a.value := by
  have hpower := power_eq 2 a.exponent two_pos
  simp only [ratio, value]
  rw [Nat.cast_mul, mul_div_assoc, hpower]
  norm_num

section Units

variable {num den : ℕ}

theorem inUnits_pos (hden : 0 < den) (e : ℤ) : 0 < (inUnits num den e).2 :=
  Nat.mul_pos hden (power_pos 2 e two_pos).1

theorem inUnits_eq (num den : ℕ) (e : ℤ) :
    ((inUnits num den e).1 : ℚ) / ((inUnits num den e).2 : ℚ) = (num : ℚ) / den / 2 ^ e := by
  have hpower := power_eq 2 e two_pos
  norm_num at hpower
  rw [← hpower, inUnits]
  push_cast
  rw [div_div_div_eq]

/-- The quotient of two numbers against that of their leading powers of two. -/
theorem quotient_log2_bounds (hnum : num ≠ 0) (hden : den ≠ 0) :
    (2 : ℚ) ^ ((num.log2 : ℤ) - den.log2 - 1) < (num : ℚ) / den ∧
      (num : ℚ) / den < 2 ^ ((num.log2 : ℤ) - den.log2 + 1) := by
  have hnumLow : (2 : ℚ) ^ num.log2 ≤ num := by exact_mod_cast Nat.log2_self_le hnum
  have hnumHigh : (num : ℚ) < 2 ^ (num.log2 + 1) := by exact_mod_cast Nat.lt_log2_self
  have hdenLow : (2 : ℚ) ^ den.log2 ≤ den := by exact_mod_cast Nat.log2_self_le hden
  have hdenHigh : (den : ℚ) < 2 ^ (den.log2 + 1) := by exact_mod_cast Nat.lt_log2_self
  have hdenPos : (0 : ℚ) < den := by exact_mod_cast Nat.pos_of_ne_zero hden
  constructor
  · rw [lt_div_iff₀ hdenPos]
    calc (2 : ℚ) ^ ((num.log2 : ℤ) - den.log2 - 1) * den
        < 2 ^ ((num.log2 : ℤ) - den.log2 - 1) * 2 ^ (den.log2 + 1) :=
          mul_lt_mul_of_pos_left hdenHigh (two_zpow_pos _)
      _ = 2 ^ num.log2 := by
          rw [← zpow_natCast, ← zpow_natCast, ← zpow_add₀ two_ne_zero]
          congr 1
          push_cast
          ring
      _ ≤ num := hnumLow
  · rw [div_lt_iff₀ hdenPos]
    calc (num : ℚ) < 2 ^ (num.log2 + 1) := hnumHigh
      _ = 2 ^ ((num.log2 : ℤ) - den.log2 + 1) * 2 ^ den.log2 := by
          rw [← zpow_natCast, ← zpow_natCast, ← zpow_add₀ two_ne_zero]
          congr 1
          push_cast
          ring
      _ ≤ 2 ^ ((num.log2 : ℤ) - den.log2 + 1) * den :=
          mul_le_mul_of_nonneg_left hdenLow (two_zpow_pos _).le

theorem div_zpow_lt_iff {q : ℚ} (e : ℤ) (k : ℕ) :
    q / 2 ^ e < 2 ^ k ↔ q < (2 : ℚ) ^ (e + k) := by
  rw [div_lt_iff₀ (two_zpow_pos e), zpow_add₀ two_ne_zero, zpow_natCast, mul_comm]

theorem le_div_zpow_iff {q : ℚ} (e : ℤ) (k : ℕ) :
    2 ^ k ≤ q / 2 ^ e ↔ (2 : ℚ) ^ (e + k) ≤ q := by
  rw [← not_lt, ← not_lt, div_zpow_lt_iff]

/-- How the mantissa is found to be too narrow. -/
theorem inUnits_lt_iff (hden : den ≠ 0) (e : ℤ) :
    (inUnits num den e).1 < Nat.pow 2 52 * (inUnits num den e).2 ↔
      (num : ℚ) / den < 2 ^ (e + 52) := by
  have hpos : (0 : ℚ) < ((inUnits num den e).2 : ℚ) := by
    exact_mod_cast (inUnits_pos (Nat.pos_of_ne_zero hden) e : 0 < (inUnits num den e).2)
  have hunits := div_zpow_lt_iff (q := (num : ℚ) / den) e 52
  rw [← inUnits_eq, div_lt_iff₀ hpos, Nat.cast_ofNat] at hunits
  rw [← hunits]
  exact_mod_cast Iff.rfl

/-- At the chosen exponent the mantissa has its full width, unless that
would need an exponent below the least one. The exponent is first chosen
without regard to the least one (`wide`). -/
theorem exponentOf_spec (hnum : num ≠ 0) (hden : den ≠ 0) :
    (num : ℚ) / den / 2 ^ exponentOf num den < 2 ^ 53 ∧
      (2 ^ 52 ≤ (num : ℚ) / den / 2 ^ exponentOf num den ∨
        exponentOf num den = leastExponent) ∧
      leastExponent ≤ exponentOf num den := by
  obtain ⟨hlow, hhigh⟩ := quotient_log2_bounds hnum hden
  obtain ⟨guess, hguess⟩ : ∃ guess : ℤ, guess = (num.log2 : ℤ) - den.log2 - 52 := ⟨_, rfl⟩
  obtain ⟨wide, hwide⟩ : ∃ wide : ℤ,
      wide = if (num : ℚ) / den < 2 ^ (guess + 52) then guess - 1 else guess := ⟨_, rfl⟩
  have hexp : exponentOf num den = max wide leastExponent := by
    rw [exponentOf, ← hguess, hwide]
    simp only [inUnits_lt_iff hden]
  have hwideLow : (2 : ℚ) ^ (wide + 52) ≤ (num : ℚ) / den := by
    rw [hwide]
    split_ifs with hsmall
    · have hsame : guess - 1 + 52 = (num.log2 : ℤ) - den.log2 - 1 := by omega
      rw [hsame]
      exact hlow.le
    · exact not_lt.mp hsmall
  have hwideHigh : (num : ℚ) / den < 2 ^ (wide + 53) := by
    rw [hwide]
    split_ifs with hsmall
    · have hsame : guess - 1 + 53 = guess + 52 := by omega
      rw [hsame]
      exact hsmall
    · have hsame : guess + 53 = (num.log2 : ℤ) - den.log2 + 1 := by omega
      rw [hsame]
      exact hhigh
  rw [hexp]
  refine ⟨(div_zpow_lt_iff _ 53).mpr ?_, ?_, le_max_right _ _⟩
  · exact lt_of_lt_of_le hwideHigh (zpow_le_zpow_right₀ one_le_two (by push_cast; omega))
  · rcases le_total wide leastExponent with hle | hle
    · exact .inr (max_eq_right hle)
    · rw [max_eq_left hle]
      exact .inl ((le_div_zpow_iff _ 52).mpr hwideLow)

end Units

theorem zero_value : zero.value = 0 := by
  simp [value, zero]

theorem zero_isNearest : zero.IsNearest 0 := by
  refine ⟨⟨by decide, .inr rfl, le_rfl, by decide⟩, fun b _ => ?_, fun _ _ _ _ => rfl⟩
  rw [zero_value, sub_zero, abs_zero]
  exact abs_nonneg _

/-- The mantissa that rounding reaches, as a magnitude. -/
def ofRounded (m : ℕ) (e : ℤ) : Magnitude :=
  if m = mantissaLimit then ⟨Nat.pow 2 52, e + 1⟩ else ⟨m, e⟩

section Rounded

variable {m : ℕ} {e : ℤ}

theorem ofRounded_value (m : ℕ) (e : ℤ) : (ofRounded m e).value = m * 2 ^ e := by
  rw [ofRounded]
  split_ifs with hlimit
  · rw [hlimit, value, mantissaLimit, zpow_add_one₀ two_ne_zero]
    norm_num
    ring
  · rfl

theorem ofRounded_even (h : m % 2 = 0) : (ofRounded m e).mantissa % 2 = 0 := by
  rw [ofRounded]
  split_ifs with hlimit
  · exact (by decide : Nat.pow 2 52 % 2 = 0)
  · exact h

theorem ofRounded_inFormat (hm : m ≤ mantissaLimit) (hfull : 2 ^ 52 ≤ m ∨ e = leastExponent)
    (hleast : leastExponent ≤ e) (hgreatest : (ofRounded m e).exponent ≤ greatestExponent) :
    (ofRounded m e).InFormat := by
  rw [ofRounded] at *
  split_ifs at * with hlimit
  · exact ⟨(by decide : Nat.pow 2 52 < mantissaLimit), .inl le_rfl, by simp only; omega,
      hgreatest⟩
  · exact ⟨lt_of_le_of_ne hm hlimit, hfull, hleast, hgreatest⟩

theorem mantissaLimit_cast : ((mantissaLimit : ℕ) : ℚ) = 2 ^ 53 := by
  norm_num [mantissaLimit]

theorem lt_overflow_of_exponent_lt {q : ℚ} (hlt : q / 2 ^ e < 2 ^ 53)
    (hsmall : e < greatestExponent) : q < overflow :=
  calc q < 2 ^ 53 * 2 ^ e := (div_lt_iff₀ (two_zpow_pos e)).mp hlt
    _ = 2 ^ 52 * 2 ^ (e + 1) := double_zpow _
    _ ≤ 2 ^ 52 * 2 ^ greatestExponent :=
        mul_le_mul_of_nonneg_left (zpow_le_zpow_right₀ one_le_two hsmall) (by positivity)
    _ < overflow := mul_lt_mul_of_pos_right (by norm_num) (two_zpow_pos _)

theorem overflow_le_of_exponent_gt {q : ℚ} (hwide : (2 : ℚ) ^ 52 ≤ q / 2 ^ e)
    (hlarge : greatestExponent < e) : overflow ≤ q :=
  calc overflow ≤ 2 ^ 53 * 2 ^ greatestExponent :=
        mul_le_mul_of_nonneg_right (by norm_num) (two_zpow_pos _).le
    _ = 2 ^ 52 * 2 ^ (greatestExponent + 1) := double_zpow _
    _ ≤ 2 ^ 52 * 2 ^ e :=
        mul_le_mul_of_nonneg_left (zpow_le_zpow_right₀ one_le_two hlarge) (by positivity)
    _ ≤ q := (le_div_iff₀ (two_zpow_pos e)).mp hwide

/-- At the largest exponent what rounds down is what lies below the last
tie, which goes up since the last mantissa is odd. -/
theorem ne_mantissaLimit_iff {q : ℚ} (hq : 0 ≤ q / 2 ^ greatestExponent)
    (hm : Numeric.IsNearest (q / 2 ^ greatestExponent) m) (hwidth : m ≤ mantissaLimit) :
    m ≠ mantissaLimit ↔ q < overflow := by
  obtain ⟨hhalf, htie⟩ := (isNearest_iff hq).mp hm
  have hscaled : q < overflow ↔ q / 2 ^ greatestExponent < 2 ^ 53 - 1 / 2 := by
    rw [div_lt_iff₀ (two_zpow_pos _), overflow]
  rw [hscaled]
  constructor
  · intro hne
    have hmle : m + 1 ≤ mantissaLimit := by omega
    have hmq : (m : ℚ) + 1 ≤ 2 ^ 53 := by
      rw [← mantissaLimit_cast]
      exact_mod_cast hmle
    refine lt_of_le_of_ne (by linarith [(abs_le.mp hhalf).2]) fun heq => ?_
    have hlast : (m : ℚ) + 1 = 2 ^ 53 := by linarith [(abs_le.mp hhalf).2]
    have heven := htie (by rw [heq, abs_of_nonneg] <;> linarith)
    have hodd : m + 1 = mantissaLimit := by
      rw [← mantissaLimit_cast] at hlast
      exact_mod_cast hlast
    rw [mantissaLimit, Nat.pow_eq] at hodd
    omega
  · rintro hbelow rfl
    rw [mantissaLimit_cast] at hhalf
    linarith [(abs_le.mp hhalf).1]

/-- Only at the largest exponent does rounding decide about the overflow. -/
theorem ofRounded_exponent_le_iff {q : ℚ} (hq : 0 ≤ q / 2 ^ e) (hlt : q / 2 ^ e < 2 ^ 53)
    (hfull : 2 ^ 52 ≤ q / 2 ^ e ∨ e = leastExponent) (hm : Numeric.IsNearest (q / 2 ^ e) m)
    (hwidth : m ≤ mantissaLimit) :
    (ofRounded m e).exponent ≤ greatestExponent ↔ q < overflow := by
  rcases lt_trichotomy e greatestExponent with hsmall | rfl | hlarge
  · refine iff_of_true ?_ (lt_overflow_of_exponent_lt hlt hsmall)
    rw [ofRounded]
    split_ifs <;> simp only <;> omega
  · rw [← ne_mantissaLimit_iff hq hm hwidth, ofRounded]
    split_ifs with hlimit <;> simp [hlimit]
  · have hwide := hfull.resolve_right fun hleast =>
      absurd (hleast ▸ hlarge) (by decide : ¬ greatestExponent < leastExponent)
    refine iff_of_false ?_ (not_lt.mpr (overflow_le_of_exponent_gt hwide hlarge))
    rw [ofRounded]
    split_ifs <;> simp only <;> omega

end Rounded

section OfRatio

variable {num den : ℕ} {a : Magnitude}

/-- Rounding finds the nearest magnitude of a number below the overflow, and
none from there on. -/
theorem ofRatio_cases (num : ℕ) (hden : den ≠ 0) :
    (∃ a, ofRatio num den = some a ∧ a.IsNearest ((num : ℚ) / den) ∧
        (num : ℚ) / den < overflow) ∨
      (ofRatio num den = none ∧ overflow ≤ (num : ℚ) / den) := by
  by_cases hnum : num = 0
  · refine .inl ⟨zero, by rw [ofRatio, if_pos hnum], ?_⟩
    rw [hnum, Nat.cast_zero, zero_div]
    exact ⟨zero_isNearest, overflow_pos⟩
  obtain ⟨q, hq⟩ : ∃ q : ℚ, q = (num : ℚ) / den := ⟨_, rfl⟩
  obtain ⟨e, he⟩ : ∃ e : ℤ, e = exponentOf num den := ⟨_, rfl⟩
  obtain ⟨hlt, hfull, hleast⟩ := exponentOf_spec hnum hden
  rw [← he, ← hq] at hlt hfull
  rw [← he] at hleast
  obtain ⟨m, hm⟩ : ∃ m : ℕ, m = roundHalfEven (inUnits num den e).1 (inUnits num den e).2 :=
    ⟨_, rfl⟩
  have hnear : Numeric.IsNearest (q / 2 ^ e) m := by
    rw [hm, hq, ← inUnits_eq]
    exact roundHalfEven_isNearest _ (inUnits_pos (Nat.pos_of_ne_zero hden) e)
  have hresult : ofRatio num den =
      if (ofRounded m e).exponent ≤ greatestExponent then some (ofRounded m e) else none := by
    rw [ofRatio, if_neg hnum, ofRounded, hm, he]
  have hwidth : m ≤ mantissaLimit := hnear.le_of_le (mantissaLimit_cast ▸ hlt.le)
  have hfullM : 2 ^ 52 ≤ m ∨ e = leastExponent :=
    hfull.imp_left fun h => hnear.le_of_ge (by exact_mod_cast h)
  have hnonneg : 0 ≤ q / 2 ^ e := by
    rw [hq]
    positivity
  have hexp := ofRounded_exponent_le_iff hnonneg hlt hfull hnear hwidth
  rw [← hq, hresult]
  by_cases hgreatest : (ofRounded m e).exponent ≤ greatestExponent
  · rw [if_pos hgreatest]
    exact .inl ⟨_, rfl, isNearest_of_units hfull hnear
      (ofRounded_inFormat hwidth hfullM hleast hgreatest) (ofRounded_value m e) ofRounded_even,
      hexp.mp hgreatest⟩
  · rw [if_neg hgreatest]
    exact .inr ⟨rfl, not_lt.mp fun h => hgreatest (hexp.mpr h)⟩

theorem ofRatio_eq_some_iff (hden : den ≠ 0) :
    ofRatio num den = some a ↔
      (num : ℚ) / den < overflow ∧ a.IsNearest ((num : ℚ) / den) := by
  rcases ofRatio_cases num hden with ⟨b, hb, hnear, hlt⟩ | ⟨hnone, hle⟩
  · rw [hb, Option.some.injEq]
    constructor
    · rintro rfl
      exact ⟨hlt, hnear⟩
    · rintro ⟨-, ha⟩
      exact hnear.unique ha
  · rw [hnone]
    constructor
    · intro h
      cases h
    · rintro ⟨hlt, -⟩
      exact absurd hle (not_le.mpr hlt)

theorem ofNat_eq_some_iff {n : ℕ} : ofNat n = some a ↔ (n : ℚ) < overflow ∧ a.IsNearest n := by
  rw [ofNat, ofRatio_eq_some_iff one_ne_zero, Nat.cast_one, div_one]

theorem mul_eq_some_iff {b c : Magnitude} :
    a.mul b = some c ↔ a.value * b.value < overflow ∧ c.IsNearest (a.value * b.value) := by
  have hden : a.ratio.2 * b.ratio.2 ≠ 0 := (Nat.mul_pos a.ratio_pos b.ratio_pos).ne'
  rw [mul, ofRatio_eq_some_iff hden, Nat.cast_mul, Nat.cast_mul, mul_div_mul_comm, ratio_eq,
    ratio_eq]

theorem div_eq_some_iff {b c : Magnitude} (hb : b.value ≠ 0) :
    a.div b = some c ↔ a.value / b.value < overflow ∧ c.IsNearest (a.value / b.value) := by
  have hnum : b.ratio.1 ≠ 0 := by
    intro hzero
    rw [← ratio_eq, hzero, Nat.cast_zero, zero_div] at hb
    exact hb rfl
  have hden : a.ratio.2 * b.ratio.1 ≠ 0 := Nat.mul_ne_zero a.ratio_pos.ne' hnum
  rw [div, ofRatio_eq_some_iff hden, Nat.cast_mul, Nat.cast_mul, ← div_div_div_eq, ratio_eq,
    ratio_eq]

/-- Below the overflow there is a nearest magnitude. -/
theorem exists_isNearest {q : ℚ} (hq : 0 ≤ q) (hlt : q < overflow) :
    ∃ a : Magnitude, a.IsNearest q := by
  have hquotient : ((q.num.toNat : ℕ) : ℚ) / q.den = q := by
    have hnum : ((q.num.toNat : ℕ) : ℚ) = q.num := by
      exact_mod_cast Int.toNat_of_nonneg (Rat.num_nonneg.mpr hq)
    rw [hnum, Rat.num_div_den]
  rcases ofRatio_cases q.num.toNat q.den_nz with ⟨a, -, ha, -⟩ | ⟨-, hle⟩
  · exact ⟨a, hquotient ▸ ha⟩
  · rw [hquotient] at hle
    exact absurd hlt (not_lt.mpr hle)

end OfRatio

/-! ## Magnitudes as bounds -/

section Bounds

variable {q : ℚ} {a b : Magnitude}

/-- A magnitude is the nearest to itself. -/
theorem InFormat.isNearest (ha : a.InFormat) : a.IsNearest a.value := by
  refine ⟨ha, fun b _ => ?_, fun b hb hne htie => ?_⟩
  · rw [sub_self, abs_zero]
    exact abs_nonneg _
  · rw [sub_self, abs_zero, abs_eq_zero, sub_eq_zero] at htie
    exact absurd (hb.eq_of_value_eq ha htie.symm) hne

/-- Rounding does not pass a magnitude. -/
theorem IsNearest.value_le_of_le (h : a.IsNearest q) (hb : b.InFormat) (hle : q ≤ b.value) :
    a.value ≤ b.value := by
  by_contra hnot
  have hlt := not_le.mp hnot
  have hnear := h.le b hb
  rw [abs_sub_comm, abs_of_nonneg (by linarith), abs_sub_comm, abs_of_nonneg (by linarith)] at hnear
  linarith

theorem IsNearest.value_ge_of_ge (h : a.IsNearest q) (hb : b.InFormat) (hle : b.value ≤ q) :
    b.value ≤ a.value := by
  by_contra hnot
  have hlt := not_le.mp hnot
  have hnear := h.le b hb
  rw [abs_of_nonneg (by linarith), abs_of_nonneg (by linarith)] at hnear
  linarith

theorem InFormat.value_lt_overflow (ha : a.InFormat) : a.value < overflow := by
  have hmantissa : (a.mantissa : ℚ) + 1 ≤ 2 ^ 53 := by
    rw [← mantissaLimit_cast]
    exact_mod_cast ha.narrow
  calc a.value ≤ a.mantissa * 2 ^ greatestExponent :=
        mul_le_mul_of_nonneg_left (zpow_le_zpow_right₀ one_le_two ha.greatest) (Nat.cast_nonneg _)
    _ < overflow := mul_lt_mul_of_pos_right (by linarith) (two_zpow_pos _)

/-- What fits the mantissa is a magnitude. Doubling the mantissa gives it its
full width. -/
theorem exists_inFormat {m : ℕ} (hm : m < 2 ^ 53) {e : ℤ} (hleast : leastExponent ≤ e)
    (hgreatest : e ≤ greatestExponent) : ∃ a : Magnitude, a.InFormat ∧ a.value = m * 2 ^ e := by
  obtain ⟨k, rfl⟩ : ∃ k : ℕ, e = leastExponent + k := ⟨(e - leastExponent).toNat, by omega⟩
  induction k generalizing m with
  | zero => exact ⟨⟨m, _⟩, ⟨hm, .inr (add_zero _), hleast, hgreatest⟩, rfl⟩
  | succ k ih =>
      by_cases hfull : 2 ^ 52 ≤ m
      · exact ⟨⟨m, _⟩, ⟨hm, .inl hfull, hleast, hgreatest⟩, rfl⟩
      · obtain ⟨a, ha, hvalue⟩ := ih (by omega : 2 * m < 2 ^ 53) (by omega) (by omega)
        refine ⟨a, ha, hvalue.trans ?_⟩
        have hexp : leastExponent + ((k + 1 : ℕ) : ℤ) = leastExponent + k + 1 := by
          push_cast
          ring
        rw [hexp, zpow_add_one₀ two_ne_zero]
        push_cast
        ring

end Bounds

end Magnitude

end Numeric

end UploadHooks
