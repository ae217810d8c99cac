import UploadHooks.Numeric.Literal

/-!
# Durations

A duration is a whole number of nanoseconds. Seconds written as a
floating-point number become the nearest whole number of nanoseconds, a
tie going to the even one; a number below zero or one of 2^64 seconds or
more is refused.

`Duration.text` shows a duration in the largest unit that it fills, with
an exact fraction.
-/

namespace UploadHooks

structure Duration where
  nanos : Nat
  deriving DecidableEq, Repr, Inhabited

namespace Duration

def nanosPerSecond : Nat := 1000000000

def ofSecs (secs : Nat) : Duration := ⟨secs * nanosPerSecond⟩

def ofMillis (millis : Nat) : Duration := ⟨millis * 1000000⟩

/-- Whole seconds. -/
def secs (d : Duration) : Nat := d.nanos / nanosPerSecond

/-- Nanoseconds beyond the whole seconds. -/
def subsecNanos (d : Duration) : Nat := d.nanos % nanosPerSecond

/-- The limit on the seconds of a duration. -/
def secsLimit : Nat := Nat.pow 2 64

inductive Fault where
  | negative
  | outOfRange
  deriving DecidableEq, Repr

def Fault.message : Fault → String
  | .negative => "cannot convert float seconds to Duration: value is negative"
  | .outOfRange => "cannot convert float seconds to Duration: value is either too big or NaN"

/-- The duration nearest to a number of seconds. -/
def ofSeconds : Numeric.Reading → Except Fault Duration
  | .finite x =>
    let (num, den) := x.magnitude.ratio
    if x.isBelowZero then .error .negative
    else if secsLimit * den ≤ num then .error .outOfRange
    else .ok ⟨Numeric.roundHalfEven (num * nanosPerSecond) den⟩
  | .infinite true => .error .negative
  | .infinite false => .error .outOfRange
  | .notANumber => .error .outOfRange

/-! ## Text -/

/-- A fraction of `width` digits without its trailing zeros, and without
its point when nothing remains. -/
def fractionText (width n : Nat) : String :=
  let digits := Nat.toDigits 10 n
  let padded := List.replicate (width - digits.length) '0' ++ digits
  let kept := (padded.reverse.dropWhile (· == '0')).reverse
  if kept.isEmpty then "" else "." ++ String.ofList kept

/-- `nanos` in a unit of `10 ^ width` nanoseconds. -/
def inUnit (width : Nat) (unit : String) (nanos : Nat) : String :=
  let size := Nat.pow 10 width
  Nat.repr (nanos / size) ++ (if width = 0 then "" else fractionText width (nanos % size)) ++ unit

def text (d : Duration) : String :=
  if nanosPerSecond ≤ d.nanos then inUnit 9 "s" d.nanos
  else if 1000000 ≤ d.nanos then inUnit 6 "ms" d.nanos
  else if 1000 ≤ d.nanos then inUnit 3 "µs" d.nanos
  else inUnit 0 "ns" d.nanos

end Duration

end UploadHooks
