import UploadHooks.Numeric.Shortest
import UploadHooks.Proofs.Numeric.Rounding

/-!
# Short decimals are found again

A decimal of at most fifteen digits is written from the magnitude that is
nearest to it just as it was. The reason is one of widths. The numbers that
round to a magnitude make up an interval (`Covers`) no wider than its last
place, and for such a decimal that is less than a step of the decimal's own
grid (`ulp_lt`). So no other point of that grid lies in the interval, and
none of a coarser grid either, because such a point is a point of the finer
grid too, with a zero at its end (`onGrid_coarser`).

The search starts at the first digit of the magnitude (`leadExponent_spec`),
passes the coarser grids without a hit and stops at the decimal's own grid.
Only the nearest magnitude to a power of ten may start one place later, on
the next finer grid, and there the zero at the end is dropped again.
-/

namespace UploadHooks

namespace Numeric

namespace Magnitude

/-! ## The numbers that round to a magnitude -/

/-- The ends of the magnitude's interval, halfway to its neighbours. -/
def lowEnd (a : Magnitude) : ℚ := a.quarters.1 * 2 ^ (a.exponent - 2)

def highEnd (a : Magnitude) : ℚ := a.quarters.2.2 * 2 ^ (a.exponent - 2)

/-- The number lies in the interval, to which the ends belong if the
mantissa is even. -/
structure Covers (a : Magnitude) (q : ℚ) : Prop where
  low : a.lowEnd ≤ q
  high : q ≤ a.highEnd
  odd : a.mantissa % 2 ≠ 0 → a.lowEnd < q ∧ q < a.highEnd

section Covers

variable {a b : Magnitude} {q r : ℚ}

theorem zpow_eq_four_mul (e : ℤ) : (2 : ℚ) ^ e = 4 * 2 ^ (e - 2) := by
  rw [zpow_sub₀ two_ne_zero]
  norm_num
  ring

theorem value_eq_quarters (a : Magnitude) : a.value = a.quarters.2.1 * 2 ^ (a.exponent - 2) := by
  rw [value, zpow_eq_four_mul, quarters]
  push_cast
  ring

theorem highEnd_eq (a : Magnitude) : a.highEnd = a.value + 2 ^ a.exponent / 2 := by
  rw [highEnd, value, zpow_eq_four_mul a.exponent, quarters]
  push_cast
  ring

theorem value_sub_le_lowEnd (a : Magnitude) : a.value - 2 ^ a.exponent / 2 ≤ a.lowEnd := by
  have hunit := two_zpow_pos (a.exponent - 2)
  have hlow : (4 * a.mantissa : ℚ) - 2 ≤ a.quarters.1 := by
    have hnat : 4 * a.mantissa ≤ a.quarters.1 + 2 := by
      simp only [quarters]
      split_ifs <;> omega
    have hcast : ((4 * a.mantissa : ℕ) : ℚ) ≤ ((a.quarters.1 + 2 : ℕ) : ℚ) := by exact_mod_cast hnat
    push_cast at hcast
    linarith
  calc a.value - 2 ^ a.exponent / 2 = ((4 * a.mantissa : ℚ) - 2) * 2 ^ (a.exponent - 2) := by
        rw [value, zpow_eq_four_mul a.exponent]
        ring
    _ ≤ a.lowEnd := mul_le_mul_of_nonneg_right hlow hunit.le

/-- The numbers that round to the lower of two magnitudes lie below the
middle. -/
theorem IsNearest.le_middle (h : a.IsNearest q) (hb : b.InFormat) (hlt : a.value < b.value) :
    q ≤ (a.value + b.value) / 2 ∧ (a.mantissa % 2 ≠ 0 → q < (a.value + b.value) / 2) := by
  have hnear := h.le b hb
  have hle : q ≤ (a.value + b.value) / 2 := by
    by_contra hnot
    have hgt := not_le.mp hnot
    rw [abs_of_pos (by linarith : 0 < q - a.value)] at hnear
    rcases abs_cases (q - b.value) with ⟨heq, -⟩ | ⟨heq, -⟩ <;> linarith
  refine ⟨hle, fun hodd => lt_of_le_of_ne hle fun hmiddle => hodd (h.even b hb ?_ ?_)⟩
  · rintro rfl
    exact lt_irrefl _ hlt
  · rw [hmiddle, abs_of_neg (by linarith), abs_of_pos (by linarith)]
    ring

theorem IsNearest.middle_le (h : a.IsNearest q) (hb : b.InFormat) (hlt : b.value < a.value) :
    (b.value + a.value) / 2 ≤ q ∧ (a.mantissa % 2 ≠ 0 → (b.value + a.value) / 2 < q) := by
  have hnear := h.le b hb
  have hle : (b.value + a.value) / 2 ≤ q := by
    by_contra hnot
    have hgt := not_le.mp hnot
    rw [abs_of_neg (by linarith : q - a.value < 0)] at hnear
    rcases abs_cases (q - b.value) with ⟨heq, -⟩ | ⟨heq, -⟩ <;> linarith
  refine ⟨hle, fun hodd => lt_of_le_of_ne hle fun hmiddle => hodd (h.even b hb ?_ ?_)⟩
  · rintro rfl
    exact lt_irrefl _ hlt
  · rw [← hmiddle, abs_of_pos (by linarith), abs_of_neg (by linarith)]
    ring

/-- The high end lies in the middle between a magnitude and the next one. -/
theorem InFormat.exists_next (ha : a.InFormat) (hsmall : a.exponent < greatestExponent) :
    ∃ b : Magnitude, b.InFormat ∧ a.value < b.value ∧ (a.value + b.value) / 2 = a.highEnd := by
  have hunit := two_zpow_pos a.exponent
  have hmiddle {b : Magnitude} (hb : b.value = (a.mantissa + 1) * 2 ^ a.exponent) :
      a.value < b.value ∧ (a.value + b.value) / 2 = a.highEnd := by
    rw [highEnd_eq, hb, value]
    constructor <;> linarith
  have hnarrow := ha.narrow
  rcases Nat.lt_or_ge (a.mantissa + 1) (2 ^ 53) with hlt | hge
  · obtain ⟨b, hb, hvalue⟩ := exists_inFormat hlt ha.least ha.greatest
    exact ⟨b, hb, hmiddle (by rw [hvalue]; push_cast; rfl)⟩
  · have hlast : a.mantissa + 1 = 2 ^ 53 := by
      rw [mantissaLimit, Nat.pow_eq] at hnarrow
      omega
    have hlastq : (a.mantissa : ℚ) + 1 = 2 ^ 53 := by exact_mod_cast hlast
    have hleast := ha.least
    obtain ⟨b, hb, hvalue⟩ := exists_inFormat (by norm_num : 2 ^ 52 < 2 ^ 53)
      (by omega : leastExponent ≤ a.exponent + 1) hsmall
    refine ⟨b, hb, hmiddle ?_⟩
    rw [hvalue, hlastq, double_zpow]
    push_cast
    rfl

/-- The low end lies in the middle between a magnitude and the one before,
which is nearer below a power of two. -/
theorem InFormat.exists_previous (ha : a.InFormat) (hpos : a.mantissa ≠ 0) :
    ∃ b : Magnitude, b.InFormat ∧ b.value < a.value ∧ (b.value + a.value) / 2 = a.lowEnd := by
  have hunit := two_zpow_pos (a.exponent - 2)
  by_cases hpower : a.mantissa = 2 ^ 52 ∧ leastExponent < a.exponent
  · obtain ⟨hmantissa, hleast⟩ := hpower
    have hgreatest := ha.greatest
    obtain ⟨b, hb, hvalue⟩ := exists_inFormat (by norm_num : 2 ^ 53 - 1 < 2 ^ 53)
      (by omega : leastExponent ≤ a.exponent - 1) (by omega)
    have hlow : a.quarters.1 = 4 * a.mantissa - 1 := by
      simp only [quarters]
      exact if_pos ⟨hmantissa, hleast⟩
    refine ⟨b, hb, ?_⟩
    rw [hvalue, lowEnd, hlow, value, hmantissa, zpow_eq_four_mul a.exponent]
    have hhalf : (2 : ℚ) ^ (a.exponent - 1) = 2 * 2 ^ (a.exponent - 2) := by
      rw [← zpow_one_add₀ two_ne_zero]
      congr 1
      ring
    rw [hhalf]
    norm_num
    constructor <;> linarith
  · have hnarrow := ha.narrow
    have hlow : a.quarters.1 = 4 * (a.mantissa - 1) + 2 := by
      simp only [quarters]
      rw [if_neg (by simpa using hpower)]
      omega
    have hb : InFormat ⟨a.mantissa - 1, a.exponent⟩ := by
      refine ⟨by simp only; omega, ?_, ha.least, ha.greatest⟩
      rcases ha.full with hfull | hleast
      · rcases Nat.lt_or_ge (2 ^ 52) a.mantissa with hlt | hge
        · exact .inl (by simp only; omega)
        · exact .inr (le_antisymm (not_lt.mp fun h => hpower ⟨by omega, h⟩) ha.least)
      · exact .inr hleast
    have hcast : ((a.mantissa - 1 : ℕ) : ℚ) = a.mantissa - 1 := by
      rw [Nat.cast_sub (by omega)]
      norm_num
    refine ⟨_, hb, ?_⟩
    rw [lowEnd, hlow, value, value, zpow_eq_four_mul a.exponent]
    push_cast
    rw [hcast]
    constructor <;> linarith

/-- What is nearest to a number covers it. -/
theorem IsNearest.covers (h : a.IsNearest q) (hpos : a.mantissa ≠ 0)
    (hsmall : a.exponent < greatestExponent) : a.Covers q := by
  obtain ⟨next, hnext, hlt, hhigh⟩ := h.inFormat.exists_next hsmall
  obtain ⟨previous, hprevious, hgt, hlow⟩ := h.inFormat.exists_previous hpos
  obtain ⟨hle, hoddHigh⟩ := h.le_middle hnext hlt
  obtain ⟨hge, hoddLow⟩ := h.middle_le hprevious hgt
  rw [hhigh] at hle hoddHigh
  rw [hlow] at hge hoddLow
  exact ⟨hge, hle, fun hodd => ⟨hoddLow hodd, hoddHigh hodd⟩⟩

/-- The interval is no wider than the last place. -/
theorem Covers.abs_sub_le (hq : a.Covers q) (hr : a.Covers r) : |q - r| ≤ 2 ^ a.exponent := by
  have hwidth := value_sub_le_lowEnd a
  have hhigh := highEnd_eq a
  rw [abs_le]
  constructor <;> linarith [hq.low, hq.high, hr.low, hr.high]

theorem Covers.abs_sub_value_le (hq : a.Covers q) : |q - a.value| ≤ 2 ^ a.exponent := by
  have hwidth := value_sub_le_lowEnd a
  have hhigh := highEnd_eq a
  have hunit := two_zpow_pos a.exponent
  rw [abs_le]
  constructor <;> linarith [hq.low, hq.high]

end Covers

/-! ## Points of a decimal grid -/

section Grid

variable {a : Magnitude} {g : ℤ} {c : ℕ}

theorem ten_zpow_pos (g : ℤ) : (0 : ℚ) < 10 ^ g := zpow_pos (by norm_num) g

/-- Quarters and grid steps in a common unit. -/
theorem exists_unit (a : Magnitude) (g : ℤ) : ∃ u : ℚ, 0 < u ∧
    ((a.gridRatio g).1 : ℚ) = 2 ^ (a.exponent - 2) * u ∧ ((a.gridRatio g).2 : ℚ) = 10 ^ g * u := by
  have htwo : (0 : ℚ) < (power 2 (a.exponent - 2)).2 := by
    exact_mod_cast (power_pos 2 (a.exponent - 2) two_pos).2
  have hten : (0 : ℚ) < (power 10 g).2 := by exact_mod_cast (power_pos 10 g (by decide)).2
  have htwoEq := power_eq 2 (a.exponent - 2) two_pos
  have htenEq := power_eq 10 g (by decide)
  rw [div_eq_iff htwo.ne', Nat.cast_ofNat] at htwoEq
  rw [div_eq_iff hten.ne', Nat.cast_ofNat] at htenEq
  refine ⟨_, mul_pos htwo hten, ?_, ?_⟩
  · simp only [gridRatio]
    rw [Nat.cast_mul, htwoEq, mul_assoc]
  · simp only [gridRatio]
    rw [Nat.cast_mul, htenEq]
    ring

/-- Quarters against steps of the grid, as the numbers that they make up. -/
theorem quarters_le_steps_iff (a : Magnitude) (g : ℤ) (k c : ℕ) :
    k * (a.gridRatio g).1 ≤ c * (a.gridRatio g).2 ↔
      (k : ℚ) * 2 ^ (a.exponent - 2) ≤ c * 10 ^ g := by
  obtain ⟨u, hu, hquarter, hstep⟩ := exists_unit a g
  rw [← @Nat.cast_le ℚ, Nat.cast_mul, Nat.cast_mul, hquarter, hstep, ← mul_assoc, ← mul_assoc,
    mul_le_mul_iff_left₀ hu]

theorem steps_le_quarters_iff (a : Magnitude) (g : ℤ) (k c : ℕ) :
    c * (a.gridRatio g).2 ≤ k * (a.gridRatio g).1 ↔
      (c : ℚ) * 10 ^ g ≤ k * 2 ^ (a.exponent - 2) := by
  obtain ⟨u, hu, hquarter, hstep⟩ := exists_unit a g
  rw [← @Nat.cast_le ℚ, Nat.cast_mul, Nat.cast_mul, hquarter, hstep, ← mul_assoc, ← mul_assoc,
    mul_le_mul_iff_left₀ hu]

/-- The last point of the grid up to the magnitude. -/
def pointBelow (a : Magnitude) (g : ℤ) : ℕ :=
  a.quarters.2.1 * (a.gridRatio g).1 / (a.gridRatio g).2

/-- Whether the grid point lies in the interval, as the search decides it. -/
def coversPoint (a : Magnitude) (g : ℤ) (c : ℕ) : Bool :=
  if a.mantissa % 2 = 0 then
    a.quarters.1 * (a.gridRatio g).1 ≤ c * (a.gridRatio g).2 &&
      c * (a.gridRatio g).2 ≤ a.quarters.2.2 * (a.gridRatio g).1
  else
    a.quarters.1 * (a.gridRatio g).1 < c * (a.gridRatio g).2 &&
      c * (a.gridRatio g).2 < a.quarters.2.2 * (a.gridRatio g).1

theorem coversPoint_iff : a.coversPoint g c = true ↔ a.Covers (c * 10 ^ g) := by
  rw [coversPoint]
  split_ifs with heven
  · rw [Bool.and_eq_true, decide_eq_true_eq, decide_eq_true_eq, quarters_le_steps_iff,
      steps_le_quarters_iff]
    constructor
    · rintro ⟨hlow, hhigh⟩
      exact ⟨hlow, hhigh, fun hodd => absurd heven hodd⟩
    · intro h
      exact ⟨h.low, h.high⟩
  · rw [Bool.and_eq_true, decide_eq_true_eq, decide_eq_true_eq, ← not_le, ← not_le,
      steps_le_quarters_iff, quarters_le_steps_iff, not_le, not_le]
    constructor
    · rintro ⟨hlow, hhigh⟩
      exact ⟨hlow.le, hhigh.le, fun _ => ⟨hlow, hhigh⟩⟩
    · intro h
      exact h.odd heven

/-- The search on one grid tries the points on both sides of the magnitude. -/
theorem onGrid_eq (a : Magnitude) (g : ℤ) : a.onGrid g =
    match a.coversPoint g (a.pointBelow g), a.coversPoint g (a.pointBelow g + 1) with
    | false, false => none
    | true, false => some (a.pointBelow g)
    | false, true => some (a.pointBelow g + 1)
    | true, true =>
      let middle := a.quarters.2.1 * (a.gridRatio g).1
      let downward := middle - a.pointBelow g * (a.gridRatio g).2
      let upward := (a.pointBelow g + 1) * (a.gridRatio g).2 - middle
      if downward < upward then some (a.pointBelow g)
      else if upward < downward then some (a.pointBelow g + 1)
      else if a.pointBelow g % 2 = 0 then some (a.pointBelow g) else some (a.pointBelow g + 1) :=
  rfl

/-- A point that is found lies in the interval. -/
theorem covers_of_onGrid (h : a.onGrid g = some c) : a.Covers (c * 10 ^ g) := by
  rw [← coversPoint_iff]
  rw [onGrid_eq] at h
  split at h
  · cases h
  · cases h
    assumption
  · cases h
    assumption
  · dsimp only at h
    split_ifs at h <;> cases h <;> assumption

theorem onGrid_ne_none (h : a.Covers (c * 10 ^ g))
    (hc : c = a.pointBelow g ∨ c = a.pointBelow g + 1) : a.onGrid g ≠ none := by
  rw [← coversPoint_iff] at h
  rw [onGrid_eq]
  rcases hc with rfl | rfl
  · rw [h]
    cases a.coversPoint g (a.pointBelow g + 1) with
    | false => simp
    | true =>
        dsimp only
        split_ifs <;> simp
  · rw [h]
    cases a.coversPoint g (a.pointBelow g) with
    | false => simp
    | true =>
        dsimp only
        split_ifs <;> simp

theorem pointBelow_bounds (a : Magnitude) (g : ℤ) :
    (a.pointBelow g : ℚ) * 10 ^ g ≤ a.value ∧ a.value < (a.pointBelow g + 1 : ℕ) * 10 ^ g := by
  have hpos : 0 < (a.gridRatio g).2 :=
    Nat.mul_pos (power_pos 2 _ two_pos).2 (power_pos 10 g (by decide)).1
  rw [value_eq_quarters, ← steps_le_quarters_iff, ← not_le, ← steps_le_quarters_iff, not_le,
    pointBelow]
  exact ⟨Nat.div_mul_le_self _ _, (Nat.div_lt_iff_lt_mul hpos).mp (Nat.lt_succ_self _)⟩

/-- A grid point less than a step from the magnitude is one that is tried. -/
theorem eq_pointBelow_or (h : |(c : ℚ) * 10 ^ g - a.value| < 10 ^ g) :
    c = a.pointBelow g ∨ c = a.pointBelow g + 1 := by
  have hstep := ten_zpow_pos g
  obtain ⟨hlow, hhigh⟩ := pointBelow_bounds a g
  obtain ⟨hmore, hless⟩ := abs_lt.mp h
  push_cast at hhigh
  have hbelow : (a.pointBelow g : ℚ) < c + 1 :=
    lt_of_mul_lt_mul_right (a := (10 : ℚ) ^ g) (by linarith) hstep.le
  have habove : (c : ℚ) < a.pointBelow g + 2 :=
    lt_of_mul_lt_mul_right (a := (10 : ℚ) ^ g) (by linarith) hstep.le
  have hbelow' : a.pointBelow g < c + 1 := by exact_mod_cast hbelow
  have habove' : c < a.pointBelow g + 2 := by exact_mod_cast habove
  omega

section Narrow

variable {c' : ℕ} (hcovers : a.Covers (c * 10 ^ g)) (hnarrow : (2 : ℚ) ^ a.exponent < 10 ^ g)

include hcovers hnarrow

/-- An interval narrower than a step of the grid holds one point at most. -/
theorem eq_of_covers (h : a.Covers (c' * 10 ^ g)) : c' = c := by
  have hstep := ten_zpow_pos g
  have hnear := lt_of_le_of_lt (h.abs_sub_le hcovers) hnarrow
  rw [← sub_mul, abs_mul, abs_of_pos hstep] at hnear
  have hless : |(c' : ℚ) - c| < 1 := by
    by_contra hnot
    have hge := mul_le_mul_of_nonneg_right (not_lt.mp hnot) hstep.le
    linarith
  by_contra hne
  exact absurd (one_le_abs_sub_of_ne hne) (not_le.mpr hless)

/-- The search stops at a point of a grid that is wide enough. -/
theorem onGrid_eq_some : a.onGrid g = some c := by
  have hnear := lt_of_le_of_lt hcovers.abs_sub_value_le hnarrow
  obtain ⟨c', hc'⟩ :=
    Option.ne_none_iff_exists'.mp (onGrid_ne_none hcovers (eq_pointBelow_or hnear))
  rw [hc', eq_of_covers hcovers hnarrow (covers_of_onGrid hc')]

/-- There is nothing on coarser grids, unless the point ends in a zero. -/
theorem onGrid_coarser (hlast : c % 10 ≠ 0) {k : ℕ} (hk : 0 < k) : a.onGrid (g + k) = none := by
  by_contra hsome
  obtain ⟨c', hc'⟩ := Option.ne_none_iff_exists'.mp hsome
  have hpoint : (c' : ℚ) * 10 ^ (g + k) = ((c' * 10 ^ k : ℕ) : ℚ) * 10 ^ g := by
    rw [zpow_add₀ (by norm_num), zpow_natCast]
    push_cast
    ring
  have hcoarse := covers_of_onGrid hc'
  rw [hpoint] at hcoarse
  have hsame := eq_of_covers hcovers hnarrow hcoarse
  obtain ⟨k, rfl⟩ : ∃ j, k = j + 1 := ⟨k - 1, by omega⟩
  apply hlast
  rw [← hsame, Nat.pow_succ, ← Nat.mul_assoc, Nat.mul_mod_left]

end Narrow

end Grid

/-! ## The first digit -/

section Lead

variable {a : Magnitude}

theorem power_mul_le_iff (base base' : ℕ) (p p' : ℤ) (hb : 0 < base) (hb' : 0 < base') :
    (power base p).1 * (power base' p').2 ≤ (power base' p').1 * (power base p).2 ↔
      (base : ℚ) ^ p ≤ (base' : ℚ) ^ p' := by
  have hpos : (0 : ℚ) < (power base p).2 := by exact_mod_cast (power_pos base p hb).2
  have hpos' : (0 : ℚ) < (power base' p').2 := by exact_mod_cast (power_pos base' p' hb').2
  rw [← power_eq base p hb, ← power_eq base' p' hb', div_le_div_iff₀ hpos hpos']
  exact_mod_cast Iff.rfl

/-- The estimate of the decimal exponent for powers of two. -/
def estimate (b : ℤ) : ℤ := b * 30103 / 100000

/-- From `2 ^ (-17)` to `2 ^ 53` the estimate is at most one off. -/
theorem estimate_bounds {b : ℤ} (hlow : -17 ≤ b) (hhigh : b < 54) :
    (10 : ℚ) ^ (estimate b - 1) ≤ 2 ^ b ∧ (2 : ℚ) ^ (b + 1) ≤ 10 ^ (estimate b + 2) := by
  have hall : ∀ i : Fin 71,
      (power 10 (estimate (i - 17) - 1)).1 * (power 2 (i - 17)).2 ≤
        (power 2 (i - 17)).1 * (power 10 (estimate (i - 17) - 1)).2 ∧
      (power 2 (i - 17 + 1)).1 * (power 10 (estimate (i - 17) + 2)).2 ≤
        (power 10 (estimate (i - 17) + 2)).1 * (power 2 (i - 17 + 1)).2 := by
    decide +kernel
  obtain ⟨i, rfl⟩ : ∃ i : Fin 71, b = i - 17 := ⟨⟨(b + 17).toNat, by omega⟩, by simp only; omega⟩
  obtain ⟨hten, htwo⟩ := hall i
  rw [power_mul_le_iff _ _ _ _ (by decide) (by decide), Nat.cast_ofNat, Nat.cast_ofNat] at hten htwo
  exact ⟨hten, htwo⟩

/-- The binary exponent of the first bit. -/
theorem value_log2_bounds (hpos : a.mantissa ≠ 0) :
    (2 : ℚ) ^ ((a.mantissa.log2 : ℤ) + a.exponent) ≤ a.value ∧
      a.value < 2 ^ ((a.mantissa.log2 : ℤ) + a.exponent + 1) := by
  have hunit := two_zpow_pos a.exponent
  have hlow : (2 : ℚ) ^ a.mantissa.log2 ≤ a.mantissa := by
    exact_mod_cast Nat.log2_self_le hpos
  have hhigh : (a.mantissa : ℚ) < 2 ^ (a.mantissa.log2 + 1) := by exact_mod_cast Nat.lt_log2_self
  constructor
  · rw [zpow_add₀ two_ne_zero, zpow_natCast]
    exact mul_le_mul_of_nonneg_right hlow hunit.le
  · rw [add_right_comm, ← Nat.cast_succ, zpow_add₀ two_ne_zero, zpow_natCast]
    exact mul_lt_mul_of_pos_right hhigh hunit

theorem ten_le_ratio_iff (a : Magnitude) (p : ℤ) :
    (power 10 p).1 * a.ratio.2 ≤ a.ratio.1 * (power 10 p).2 ↔ (10 : ℚ) ^ p ≤ a.value := by
  have hpos : (0 : ℚ) < (power 10 p).2 := by exact_mod_cast (power_pos 10 p (by decide)).2
  have hden : (0 : ℚ) < a.ratio.2 := by exact_mod_cast a.ratio_pos
  have hten := power_eq 10 p (by decide)
  rw [Nat.cast_ofNat] at hten
  rw [← hten, ← ratio_eq, div_le_div_iff₀ hpos hden]
  exact_mod_cast Iff.rfl

/-- The estimate is corrected by at most one. -/
theorem leadExponent_cases (a : Magnitude) {p : ℤ}
    (hp : p = estimate (a.mantissa.log2 + a.exponent)) :
    (a.leadExponent = p - 1 ∧ a.value < 10 ^ p) ∨
      (a.leadExponent = p + 1 ∧ (10 : ℚ) ^ (p + 1) ≤ a.value) ∨
      (a.leadExponent = p ∧ (10 : ℚ) ^ p ≤ a.value ∧ a.value < 10 ^ (p + 1)) := by
  rw [estimate] at hp
  simp only [leadExponent, ten_le_ratio_iff, ← hp, Bool.not_eq_true', decide_eq_false_iff_not,
    decide_eq_true_eq]
  split_ifs with hle hmore
  · exact .inr (.inl ⟨rfl, hmore⟩)
  · exact .inr (.inr ⟨rfl, hle, not_le.mp hmore⟩)
  · exact .inl ⟨rfl, not_le.mp hle⟩

/-- The first digit stands where it is said to. -/
theorem leadExponent_spec (hlow : (2 : ℚ) ^ (-17 : ℤ) ≤ a.value) (hhigh : a.value < 2 ^ (54 : ℤ)) :
    (10 : ℚ) ^ a.leadExponent ≤ a.value ∧ a.value < 10 ^ (a.leadExponent + 1) := by
  have hpos : a.mantissa ≠ 0 := by
    intro hzero
    rw [value, hzero, Nat.cast_zero, zero_mul] at hlow
    exact absurd hlow (not_le.mpr (two_zpow_pos _))
  obtain ⟨hfirst, hnext⟩ := value_log2_bounds hpos
  obtain ⟨b, hb⟩ : ∃ b : ℤ, b = a.mantissa.log2 + a.exponent := ⟨_, rfl⟩
  rw [← hb] at hfirst hnext
  have hbLow : -17 ≤ b := by
    have hlt := (zpow_lt_zpow_iff_right₀ (one_lt_two : (1 : ℚ) < 2)).mp (lt_of_le_of_lt hlow hnext)
    omega
  have hbHigh : b < 54 :=
    (zpow_lt_zpow_iff_right₀ (one_lt_two : (1 : ℚ) < 2)).mp (lt_of_le_of_lt hfirst hhigh)
  obtain ⟨hten, htwo⟩ := estimate_bounds hbLow hbHigh
  rcases leadExponent_cases a (congrArg estimate hb) with
    ⟨hlead, hless⟩ | ⟨hlead, hmore⟩ | ⟨hlead, hle, hlt⟩
  · rw [hlead, sub_add_cancel]
    exact ⟨hten.trans hfirst, hless⟩
  · have hexp : estimate b + 1 + 1 = estimate b + 2 := by ring
    rw [hlead, hexp]
    exact ⟨hmore, lt_of_lt_of_le hnext htwo⟩
  · rw [hlead]
    exact ⟨hle, hlt⟩

end Lead

/-! ## The whole search -/

section Shortest

variable {a : Magnitude} {c : ℕ} {g : ℤ}

/-- All zeros at the end are dropped. -/
theorem dropZeros_eq (hlast : c % 10 ≠ 0) {k fuel : ℕ} (hfuel : k ≤ fuel) (g : ℤ) :
    Decimal.dropZeros fuel ⟨c * 10 ^ k, g⟩ = ⟨c, g + k⟩ := by
  induction fuel generalizing k g with
  | zero =>
      obtain rfl := Nat.le_zero.mp hfuel
      simp [Decimal.dropZeros]
  | succ fuel ih =>
      rw [Decimal.dropZeros]
      cases k with
      | zero =>
          rw [if_neg (by simp only; omega)]
          simp
      | succ k =>
          have hzero : c * 10 ^ (k + 1) % 10 = 0 := by
            rw [Nat.pow_succ, ← Nat.mul_assoc, Nat.mul_mod_left]
          have hpos : c * 10 ^ (k + 1) ≠ 0 := by
            have hc : c ≠ 0 := by
              rintro rfl
              exact hlast rfl
            positivity
          have hdiv : c * 10 ^ (k + 1) / 10 = c * 10 ^ k := by
            rw [Nat.pow_succ, ← Nat.mul_assoc, Nat.mul_div_cancel _ (by decide)]
          rw [if_pos ⟨hpos, hzero⟩]
          simp only [hdiv]
          rw [ih (by omega)]
          congr 1
          push_cast
          ring

theorem findSome?_range {β : Type} {f : ℕ → Option β} {n k : ℕ} {b : β} (hk : k < n)
    (hbefore : ∀ i < k, f i = none) (hhit : f k = some b) :
    (List.range n).findSome? f = some b := by
  rw [List.findSome?_eq_some_iff]
  obtain ⟨m, rfl⟩ : ∃ m, n = k + (m + 1) := ⟨n - k - 1, by omega⟩
  refine ⟨List.range k, k, (List.range m).map (k + 1 + ·), ?_, hhit, fun i hi => ?_⟩
  · rw [List.range_add, List.range_succ_eq_map, List.map_cons, List.map_map]
    congr 3
    funext i
    simp only [Function.comp_apply]
    omega
  · exact hbefore i (List.mem_range.mp hi)

theorem shortest_of_hit {k : ℕ} (hk : k < 17)
    (hbefore : ∀ i < k, a.onGrid (a.leadExponent - i) = none)
    (hhit : a.onGrid (a.leadExponent - k) = some c) :
    a.shortest = Decimal.dropZeros 17 ⟨c, a.leadExponent - k⟩ := by
  have hfound := findSome?_range (f := fun i : ℕ => (a.onGrid (a.leadExponent - i)).map fun c =>
    Decimal.dropZeros 17 ⟨c, a.leadExponent - i⟩) hk
    (fun i hi => by rw [hbefore i hi, Option.map_none]) (by rw [hhit, Option.map_some])
  simp only [shortest, hfound, Option.getD_some]

theorem exists_power {e : ℤ} (hleast : leastExponent ≤ e) (hgreatest : e ≤ greatestExponent) :
    ∃ b : Magnitude, b.InFormat ∧ b.value = 2 ^ e := by
  obtain ⟨b, hb, hvalue⟩ := exists_inFormat (by norm_num : 1 < 2 ^ 53) hleast hgreatest
  exact ⟨b, hb, by rw [hvalue, Nat.cast_one, one_mul]⟩

/-- Away from the ends of the format a magnitude has its full width, and it
covers what it is nearest to. -/
structure Ordinary (a : Magnitude) (q : ℚ) : Prop where
  low : (2 : ℚ) ^ (-17 : ℤ) ≤ a.value
  high : a.value ≤ 2 ^ (50 : ℤ)
  wide : 2 ^ 52 * (2 : ℚ) ^ a.exponent ≤ a.value
  covers : a.Covers q

theorem IsNearest.ordinary {q : ℚ} (h : a.IsNearest q) (hlow : (2 : ℚ) ^ (-17 : ℤ) ≤ q)
    (hhigh : q ≤ 2 ^ (50 : ℤ)) : a.Ordinary q := by
  have hvalueLow : (2 : ℚ) ^ (-17 : ℤ) ≤ a.value := by
    obtain ⟨b, hb, hvalue⟩ := exists_power (by decide : leastExponent ≤ -17) (by decide)
    rw [← hvalue] at hlow ⊢
    exact h.value_ge_of_ge hb hlow
  have hvalueHigh : a.value ≤ 2 ^ (50 : ℤ) := by
    obtain ⟨b, hb, hvalue⟩ := exists_power (by decide : leastExponent ≤ 50) (by decide)
    rw [← hvalue] at hhigh ⊢
    exact h.value_le_of_le hb hhigh
  have hfull : 2 ^ 52 ≤ a.mantissa := by
    rcases h.inFormat.full with hfull | hleast
    · exact hfull
    · have htiny := h.inFormat.value_lt_of_exponent_lt (hleast.trans_lt (by decide) : _ < -69)
      rw [← zpow_natCast, ← zpow_add₀ two_ne_zero] at htiny
      exact absurd hvalueLow (not_le.mpr htiny)
  have hfullq : (2 : ℚ) ^ 52 ≤ a.mantissa := by exact_mod_cast hfull
  have hwide : 2 ^ 52 * (2 : ℚ) ^ a.exponent ≤ a.value :=
    mul_le_mul_of_nonneg_right hfullq (two_zpow_pos _).le
  have hsmall : a.exponent < greatestExponent := by
    have hle := hwide.trans hvalueHigh
    rw [← zpow_natCast, ← zpow_add₀ two_ne_zero,
      zpow_le_zpow_iff_right₀ (one_lt_two : (1 : ℚ) < 2)] at hle
    rw [greatestExponent]
    push_cast at hle
    omega
  exact ⟨hvalueLow, hvalueHigh, hwide, h.covers (by omega) hsmall⟩

section Found

variable (hcovers : a.Covers (c * 10 ^ g)) (hlast : c % 10 ≠ 0)

include hcovers hlast

/-- Where the grid of the decimal is searched, nothing is found on the
coarser ones before it. -/
theorem shortest_of_le_lead (hnarrow : (2 : ℚ) ^ a.exponent < 10 ^ g) (hle : g ≤ a.leadExponent)
    (hlt : a.leadExponent < g + 16) : a.shortest = ⟨c, g⟩ := by
  obtain ⟨k, hk⟩ : ∃ k : ℕ, a.leadExponent = g + k := ⟨(a.leadExponent - g).toNat, by omega⟩
  have hgrid (i : ℕ) (hi : i ≤ k) : a.leadExponent - i = g + ((k - i : ℕ) : ℤ) := by omega
  have hbefore (i : ℕ) (hi : i < k) : a.onGrid (a.leadExponent - i) = none := by
    rw [hgrid i hi.le]
    exact onGrid_coarser hcovers hnarrow hlast (by omega)
  have hown : a.leadExponent - k = g := by omega
  have hhit : a.onGrid (a.leadExponent - k) = some c := by
    rw [hown]
    exact onGrid_eq_some hcovers hnarrow
  rw [shortest_of_hit (by omega) hbefore hhit, hown]
  simpa using dropZeros_eq hlast (Nat.zero_le 17) g

/-- One place below a power of ten the first grid has it already, with a
zero at the end. -/
theorem shortest_of_eq_lead_add_one (hnarrow : (2 : ℚ) ^ a.exponent < 10 ^ a.leadExponent)
    (hg : g = a.leadExponent + 1) : a.shortest = ⟨c, g⟩ := by
  have hpoint : (c : ℚ) * 10 ^ g = ((c * 10 ^ 1 : ℕ) : ℚ) * 10 ^ a.leadExponent := by
    rw [hg, zpow_add_one₀ (by norm_num)]
    push_cast
    ring
  rw [hpoint] at hcovers
  have hhit : a.onGrid (a.leadExponent - (0 : ℕ)) = some (c * 10 ^ 1) := by
    rw [Nat.cast_zero, sub_zero]
    exact onGrid_eq_some hcovers hnarrow
  rw [shortest_of_hit (by decide) (by simp) hhit, dropZeros_eq hlast (by decide)]
  simp [hg]

end Found

/-- A decimal of at most fifteen digits, not too small, is what the search
finds for the magnitude nearest to it. -/
theorem shortest_eq (hnear : a.IsNearest (c * 10 ^ g)) (hlast : c % 10 ≠ 0) (hc : c < 10 ^ 15)
    (hlow : (10 : ℚ) ^ (-5 : ℤ) ≤ c * 10 ^ g) (hhigh : (c : ℚ) * 10 ^ g < 10 ^ (15 : ℤ)) :
    a.shortest = ⟨c, g⟩ := by
  have hpowerLow : (2 : ℚ) ^ (-17 : ℤ) ≤ 10 ^ (-5 : ℤ) := by norm_num
  have hpowerHigh : (10 : ℚ) ^ (15 : ℤ) ≤ 2 ^ (50 : ℤ) := by norm_num
  obtain ⟨hvalueLow, hvalueHigh, hwide, hcovers⟩ :=
    hnear.ordinary (hpowerLow.trans hlow) (hhigh.le.trans hpowerHigh)
  obtain ⟨hlead, hnext⟩ := leadExponent_spec hvalueLow
    (lt_of_le_of_lt hvalueHigh (by norm_num))
  have hten : (10 : ℚ) ≠ 0 := by norm_num
  rw [zpow_add_one₀ hten] at hnext
  have hstep := ten_zpow_pos g
  have hleadPos := ten_zpow_pos a.leadExponent
  obtain ⟨hless, hmore⟩ := abs_le.mp hcovers.abs_sub_value_le
  have hfifteen : (c : ℚ) * 10 ^ g < 10 ^ 15 * 10 ^ g :=
    mul_lt_mul_of_pos_right (by exact_mod_cast hc) hstep
  have hone : 1 * (10 : ℚ) ^ g ≤ c * 10 ^ g :=
    mul_le_mul_of_nonneg_right (by exact_mod_cast (by omega : 1 ≤ c)) hstep.le
  have hnarrow : (2 : ℚ) ^ a.exponent < 10 ^ g := by linarith
  rcases le_or_gt g a.leadExponent with hle | hlt
  · have hbound : (10 : ℚ) ^ a.leadExponent < 10 ^ (g + 16) := by
      rw [zpow_add₀ hten]
      norm_num
      linarith
    exact shortest_of_le_lead hcovers hlast hnarrow hle
      ((zpow_lt_zpow_iff_right₀ (by norm_num)).mp hbound)
  · have hbound : (10 : ℚ) ^ g < 10 ^ (a.leadExponent + 2) := by
      rw [zpow_add₀ hten]
      norm_num
      linarith
    have hgLt := (zpow_lt_zpow_iff_right₀ (by norm_num : (1 : ℚ) < 10)).mp hbound
    exact shortest_of_eq_lead_add_one hcovers hlast (by linarith) (by omega)

end Shortest

end Magnitude

end Numeric

end UploadHooks
