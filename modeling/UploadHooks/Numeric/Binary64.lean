/-!
# Binary floating point, exactly

A number of the 64-bit binary format is a sign and a magnitude `m * 2^e`
with natural `m`. Everything here is exact arithmetic on natural numbers:
a result is computed as a quotient and then rounded once.

- `roundHalfEven` rounds a quotient to the nearest natural number; a tie
  goes to the even one.
- `Magnitude.ofRatio` rounds a quotient to the nearest magnitude of the
  format, `none` when that lies beyond the largest one.
- `Magnitude.mul` and `Magnitude.div` are the exact product and quotient,
  rounded.

No machine arithmetic is involved, so each of these can be reasoned about.
-/

namespace UploadHooks

namespace Numeric

/-- The natural number nearest to `num / den`, the even one in a tie. -/
def roundHalfEven (num den : Nat) : Nat :=
  let q := num / den
  let r := num % den
  if 2 * r < den then q
  else if den < 2 * r then q + 1
  else if q % 2 = 0 then q else q + 1

/-- `mantissa * 2 ^ exponent`. -/
structure Magnitude where
  mantissa : Nat
  exponent : Int
  deriving DecidableEq, Repr, Inhabited

namespace Magnitude

/-- Every mantissa lies below this. -/
def mantissaLimit : Nat := Nat.pow 2 53

/-- The exponent of the smallest magnitudes. -/
def leastExponent : Int := -1074

def greatestExponent : Int := 971

def zero : Magnitude := ⟨0, leastExponent⟩

/-- `2 ^ e` as a quotient of natural numbers. -/
def power (base : Nat) (e : Int) : Nat × Nat :=
  (Nat.pow base e.toNat, Nat.pow base (-e).toNat)

/-- The magnitude as a quotient. -/
def ratio (a : Magnitude) : Nat × Nat :=
  let p := power 2 a.exponent
  (a.mantissa * p.1, p.2)

/-- `num / den` in units of `2 ^ e`. -/
def inUnits (num den : Nat) (e : Int) : Nat × Nat :=
  let p := power 2 e
  (num * p.2, den * p.1)

/-- The exponent at which `num / den` has a mantissa of full width, but
not less than the least one. The two logarithms place the mantissa
between half and the whole of the width, and one comparison decides. -/
def exponentOf (num den : Nat) : Int :=
  let guess : Int := (num.log2 : Int) - den.log2 - 52
  let x := inUnits num den guess
  max (if x.1 < Nat.pow 2 52 * x.2 then guess - 1 else guess) leastExponent

/-- The magnitude nearest to `num / den`. Rounding may reach the limit of
the mantissa, which is then written with the next exponent. -/
def ofRatio (num den : Nat) : Option Magnitude :=
  if num = 0 then some zero
  else
    let e := exponentOf num den
    let x := inUnits num den e
    let m := roundHalfEven x.1 x.2
    let rounded : Magnitude := if m = mantissaLimit then ⟨Nat.pow 2 52, e + 1⟩ else ⟨m, e⟩
    if rounded.exponent ≤ greatestExponent then some rounded else none

def ofNat (n : Nat) : Option Magnitude := ofRatio n 1

def isZero (a : Magnitude) : Bool := a.mantissa == 0

def mul (a b : Magnitude) : Option Magnitude :=
  ofRatio (a.ratio.1 * b.ratio.1) (a.ratio.2 * b.ratio.2)

def div (a b : Magnitude) : Option Magnitude :=
  ofRatio (a.ratio.1 * b.ratio.2) (a.ratio.2 * b.ratio.1)

/-- The magnitude nearest to `digits * 10 ^ e`. Beyond the given bounds the
result is known without the power, which keeps a long exponent cheap. -/
def ofDecimal (digits : Nat) (e : Int) : Option Magnitude :=
  if digits = 0 then some zero
  else
    let lead : Int := e + (Nat.toDigits 10 digits).length
    if 400 < lead then none
    else if lead < -400 then some zero
    else
      let p := power 10 e
      ofRatio (digits * p.1) p.2

end Magnitude

/-- A finite number of the format. Zero has both signs. -/
structure Binary64 where
  negative : Bool
  magnitude : Magnitude
  deriving DecidableEq, Repr, Inhabited

namespace Binary64

/-- Below zero, which the negative zero is not. -/
def isBelowZero (x : Binary64) : Bool := x.negative && !x.magnitude.isZero

end Binary64

end Numeric

end UploadHooks
