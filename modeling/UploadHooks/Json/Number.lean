import UploadHooks.Json.Value
import UploadHooks.Numeric.Natural
import UploadHooks.Numeric.Shortest

/-!
# The text of JSON numbers

Whole numbers are written in decimal. A floating-point number is written
with the fewest digits that read back, positionally while its first digit
stands between the fifth place after the point and the sixteenth before
it, always with a point; beyond that with an exponent.

Reading does not round a decimal in one step. The digits are collected
into a number of at most 64 bits, what does not fit only moves the
exponent, and the significand is then multiplied or divided by a power of
ten, each step rounded. `Number.scale` is that last part.
-/

namespace UploadHooks

namespace Json

open Numeric

/-! ## Writing -/

/-- Where positional notation begins and ends, as exponents of the first
digit. -/
structure DecimalForm where
  leastPositional : Int
  greatestPositional : Int

/-- Floating-point numbers are positional from `0.00001` up to sixteen
digits before the point. -/
def decimalForm : DecimalForm := ⟨-5, 15⟩

/-- One digit, a point if more follow, and the exponent with its sign. -/
def scientific (digits : List Char) (lead : Int) : List Char :=
  let sign := if lead < 0 then ['-'] else ['+']
  let mantissa :=
    match digits with
    | [] => []
    | [d] => [d]
    | d :: ds => d :: '.' :: ds
  mantissa ++ ['e'] ++ sign ++ Nat.toDigits 10 lead.natAbs

/-- Digits with the point after the first `lead + 1` of them. -/
def positional (digits : List Char) (lead : Int) : List Char :=
  if lead < 0 then
    ['0', '.'] ++ List.replicate (-lead - 1).toNat '0' ++ digits
  else
    let whole := lead.toNat + 1
    let fraction := digits.drop whole
    digits.take whole ++ List.replicate (whole - digits.length) '0' ++ ['.'] ++
      if fraction.isEmpty then ['0'] else fraction

def decimalText (d : Decimal) : List Char :=
  let digits := d.digitChars
  let lead := d.exponent + digits.length - 1
  if decimalForm.leastPositional ≤ lead ∧ lead ≤ decimalForm.greatestPositional then
    positional digits lead
  else scientific digits lead

def binaryText (x : Binary64) : List Char :=
  (if x.negative then ['-'] else []) ++
    if x.magnitude.isZero then ['0', '.', '0'] else decimalText x.magnitude.shortest

def integerText (n : Int) : List Char :=
  (if n < 0 then ['-'] else []) ++ Nat.toDigits 10 n.natAbs

namespace Number

def chars : Number → List Char
  | .integer n => integerText n
  | .float x => binaryText x

def text (n : Number) : String := String.ofList n.chars

/-! ## Scaling -/

/-- The largest power of ten that a significand is scaled by at once. -/
def greatestPower : Nat := 308

/-- `10 ^ k` rounded to the format. -/
def tenTo (k : Nat) : Magnitude := (Magnitude.ofNat (Nat.pow 10 k)).getD Magnitude.zero

/-- A significand divided by the largest power. -/
def stepDown (m : Magnitude) : Magnitude := (m.div (tenTo greatestPower)).getD .zero

theorem natAbs_add_lt {e : Int} {k : Nat} (hk : 0 < k) (hlarge : ¬ e.natAbs ≤ k) (hneg : ¬ 0 ≤ e) :
    (e + k).natAbs < e.natAbs := by omega

/-- `m * 10 ^ e`, rounded after each step; `none` when it grows beyond the
format. A significand that has reached zero stays there. -/
def scale (m : Magnitude) (e : Int) : Option Magnitude :=
  if e.natAbs ≤ greatestPower then
    if 0 ≤ e then m.mul (tenTo e.toNat) else m.div (tenTo e.natAbs)
  else if m.isZero then some m
  else if 0 ≤ e then none
  else scale (stepDown m) (e + greatestPower)
  termination_by e.natAbs
  decreasing_by exact natAbs_add_lt (by decide) ‹_› ‹_›

/-- A whole number as read: negative zero and anything beyond 64 bits is
a floating-point number. -/
def ofSignificand (negative : Bool) (significand : Nat) : Number :=
  if negative then
    if 0 < significand ∧ significand ≤ Nat.pow 2 63 then .integer (-significand)
    else .float ⟨true, (Magnitude.ofNat significand).getD .zero⟩
  else .integer significand

/-- A significand and a decimal exponent as read. -/
def ofScaled (negative : Bool) (significand : Nat) (e : Int) : Option Number :=
  (scale ((Magnitude.ofNat significand).getD .zero) e).map fun m => .float ⟨negative, m⟩

end Number

end Json

end UploadHooks
