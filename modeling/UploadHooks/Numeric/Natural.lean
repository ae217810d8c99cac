/-!
# Written natural numbers

Version components, ports and counted settings are written with ASCII
digits, optionally after a plus sign, and have an upper limit. `readUpTo`
reads one and says what is wrong otherwise: the first fault from the left
decides, so a number that grows too large is reported as such even when a
letter follows.
-/

namespace UploadHooks

namespace Numeric

/-- Why a text is not a natural number within its limit. -/
inductive NaturalFault where
  | empty
  | invalidDigit
  | tooLarge
  deriving DecidableEq, Repr

def NaturalFault.message : NaturalFault → String
  | .empty => "cannot parse integer from empty string"
  | .invalidDigit => "invalid digit found in string"
  | .tooLarge => "number too large to fit in target type"

def digitValue (c : Char) : Nat := c.toNat - '0'.toNat

/-- The value of a digit string, whatever its characters. -/
def digitsValue (s : List Char) : Nat := s.foldl (fun n c => n * 10 + digitValue c) 0

/-- Reads digits on top of `acc`, checking the limit after each. -/
def readDigits (limit acc : Nat) : List Char → Except NaturalFault Nat
  | [] => .ok acc
  | c :: cs =>
    if c.isDigit then
      let n := acc * 10 + digitValue c
      if n ≤ limit then readDigits limit n cs else .error .tooLarge
    else .error .invalidDigit

def readUpTo (limit : Nat) : List Char → Except NaturalFault Nat
  | [] => .error .empty
  | ['+'] => .error .invalidDigit
  | '+' :: digits => readDigits limit 0 digits
  | digits => readDigits limit 0 digits

/-- The largest numbers of 32 and of 64 bits. -/
def max32 : Nat := Nat.pow 2 32 - 1

def max64 : Nat := Nat.pow 2 64 - 1

end Numeric

end UploadHooks
