import UploadHooks.Numeric.Natural
import UploadHooks.Numeric.Binary64

/-!
# Written floating-point numbers

The grammar of a number in a setting or a header: an optional sign, then
digits with an optional point (one side may be empty) and an optional
exponent, or one of the words `inf`, `infinity` and `nan` in any letter
case. The value is the nearest number of the 64-bit binary format.
-/

namespace UploadHooks

namespace Numeric

inductive LiteralFault where
  | empty
  | invalid
  deriving DecidableEq, Repr

def LiteralFault.message : LiteralFault → String
  | .empty => "cannot parse float from empty string"
  | .invalid => "invalid float literal"

/-- What a written number denotes. -/
inductive Reading where
  | finite (value : Binary64)
  | infinite (negative : Bool)
  | notANumber
  deriving DecidableEq, Repr

/-- The digits at the front, and the rest. -/
def spanDigits (s : List Char) : List Char × List Char := s.span Char.isDigit

/-- The exponent part: absent, or a mark, an optional sign and at least one
digit up to the end. -/
def readExponent : List Char → Option Int
  | [] => some 0
  | c :: s =>
    if c = 'e' ∨ c = 'E' then
      let (negative, digits) : Bool × List Char :=
        match s with
        | '-' :: digits => (true, digits)
        | '+' :: digits => (false, digits)
        | digits => (false, digits)
      if digits.isEmpty ∨ ¬ digits.all Char.isDigit then none
      else some (if negative then - (digitsValue digits : Int) else digitsValue digits)
    else none

/-- An unsigned decimal number as its digits and the power of ten they are
scaled by. -/
def readDecimal (s : List Char) : Option (Nat × Int) :=
  let (whole, rest) := spanDigits s
  let (fraction, rest) : List Char × List Char :=
    match rest with
    | '.' :: rest => spanDigits rest
    | rest => ([], rest)
  if whole.isEmpty ∧ fraction.isEmpty then none
  else (readExponent rest).map fun e => (digitsValue (whole ++ fraction), e - fraction.length)

def readWord (negative : Bool) (s : List Char) : Option Reading :=
  match String.ofList (s.map Char.toLower) with
  | "inf" | "infinity" => some (.infinite negative)
  | "nan" => some .notANumber
  | _ => none

def readUnsigned (negative : Bool) (s : List Char) : Option Reading :=
  match readDecimal s with
  | some (digits, e) =>
    match Magnitude.ofDecimal digits e with
    | some magnitude => some (.finite ⟨negative, magnitude⟩)
    | none => some (.infinite negative)
  | none => readWord negative s

def readLiteral : List Char → Except LiteralFault Reading
  | [] => .error .empty
  | '-' :: s => (readUnsigned true s).elim (.error .invalid) .ok
  | '+' :: s => (readUnsigned false s).elim (.error .invalid) .ok
  | s => (readUnsigned false s).elim (.error .invalid) .ok

end Numeric

end UploadHooks
