import UploadHooks.Duration
import UploadHooks.Text.Blank
import UploadHooks.Text.Utf8

/-!
# Retry policies

A call is attempted at most a given number of times with a wait between
two attempts. A service that is overloaded may ask for a wait of its own
in the header `Retry-After`; it is granted when it is shorter than the
policy's, so the policy's delay bounds every wait.

Only the first line of the header counts, and only if it is visible ASCII
and, after trimming, a number of seconds that is a duration.
-/

namespace UploadHooks

namespace Status

structure RetryPolicy where
  maxAttempts : Nat
  delay : Duration
  deriving DecidableEq, Repr

namespace RetryPolicy

def standard : RetryPolicy := ⟨6, Duration.ofSecs 1⟩

/-- A printable ASCII character or a tab. -/
def isVisible (b : UInt8) : Bool := (0x20 ≤ b.toNat && b.toNat < 0x7F) || b.toNat == 9

/-- The text of a header line, if it has one. -/
def headerText? (line : List UInt8) : Option (List Char) :=
  if line.all isVisible then some (line.map fun b => Char.ofNat b.toNat) else none

/-- The wait that a header line asks for, if it is a duration. -/
def requestedWait? (line : List UInt8) : Option Duration := do
  let text ← headerText? line
  let reading ← (Numeric.readLiteral (Text.trim text)).toOption
  (Duration.ofSeconds reading).toOption

/-- The wait after a throttled response with the given header lines. -/
def throttleDelay (policy : RetryPolicy) (retryAfter : List (List UInt8)) : Duration :=
  match retryAfter.head?.bind requestedWait? with
  | some wait => if wait.nanos < policy.delay.nanos then wait else policy.delay
  | none => policy.delay

end RetryPolicy

end Status

end UploadHooks
