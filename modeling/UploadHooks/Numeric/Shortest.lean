import UploadHooks.Numeric.Binary64

/-!
# The fewest digits that read back

Every real number in an interval around a magnitude rounds to it. The
ends of the interval lie halfway to the two neighbours and belong to it
exactly when the mantissa is even. `shortest` finds the decimal with the
fewest digits in that interval, and of those with as few the nearest one.

If some point of a decimal grid lies in the interval, so does one of the
two grid points around the magnitude itself. So it is enough to try those
two for one digit, two digits and so on; seventeen always suffice.

All comparisons are made in units of a quarter of the last mantissa bit,
where the magnitude and both ends are natural numbers.
-/

namespace UploadHooks

namespace Numeric

/-- `digits * 10 ^ exponent`. -/
structure Decimal where
  digits : Nat
  exponent : Int
  deriving DecidableEq, Repr

namespace Magnitude

/-- The magnitude and the ends of its interval, counted in quarters of the
last mantissa bit. Below a power of two the neighbour is only half as far
away. -/
def quarters (a : Magnitude) : Nat × Nat × Nat :=
  let m := 4 * a.mantissa
  let low := if a.mantissa = Nat.pow 2 52 ∧ leastExponent < a.exponent then m - 1 else m - 2
  (low, m, m + 2)

/-- The exponent of the magnitude's first decimal digit. The estimate from
the binary logarithm is at most one off. -/
def leadExponent (a : Magnitude) : Int :=
  let estimate : Int := ((a.mantissa.log2 : Int) + a.exponent) * 30103 / 100000
  let atLeast (p : Int) : Bool :=
    let t := power 10 p
    t.1 * a.ratio.2 ≤ a.ratio.1 * t.2
  if !atLeast estimate then estimate - 1
  else if atLeast (estimate + 1) then estimate + 1
  else estimate

/-- A quarter of the last mantissa bit against the step `10 ^ g` of a
decimal grid: `k` quarters are `k * fst / snd` steps. -/
def gridRatio (a : Magnitude) (g : Int) : Nat × Nat :=
  let two := power 2 (a.exponent - 2)
  let ten := power 10 g
  (two.1 * ten.2, two.2 * ten.1)

/-- The nearest point of the grid with step `10 ^ g` that rounds to the
magnitude, if there is one. A tie goes to the even point. -/
def onGrid (a : Magnitude) (g : Int) : Option Nat :=
  let (low, mid, high) := a.quarters
  let (s, t) := a.gridRatio g
  let inside (c : Nat) : Bool :=
    if a.mantissa % 2 = 0 then low * s ≤ c * t && c * t ≤ high * s
    else low * s < c * t && c * t < high * s
  let below := mid * s / t
  let above := below + 1
  let downward := mid * s - below * t
  let upward := above * t - mid * s
  match inside below, inside above with
  | false, false => none
  | true, false => some below
  | false, true => some above
  | true, true =>
    if downward < upward then some below
    else if upward < downward then some above
    else if below % 2 = 0 then some below else some above

end Magnitude

namespace Decimal

/-- Drops up to `fuel` trailing zeros. -/
def dropZeros : Nat → Decimal → Decimal
  | 0, d => d
  | fuel + 1, d =>
    if d.digits ≠ 0 ∧ d.digits % 10 = 0 then dropZeros fuel ⟨d.digits / 10, d.exponent + 1⟩ else d

/-- The digits as text, most significant first. -/
def digitChars (d : Decimal) : List Char := Nat.toDigits 10 d.digits

end Decimal

/-- The shortest decimal that rounds to a magnitude other than zero. -/
def Magnitude.shortest (a : Magnitude) : Decimal :=
  let lead := a.leadExponent
  let found := (List.range 17).findSome? fun (i : Nat) =>
    let g := lead - (i : Int)
    (a.onGrid g).map fun c => Decimal.dropZeros 17 ⟨c, g⟩
  found.getD ⟨0, 0⟩

end Numeric

end UploadHooks
