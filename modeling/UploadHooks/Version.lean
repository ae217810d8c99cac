import UploadHooks.Numeric.Natural
import UploadHooks.Text.Blank

/-!
# Dotted versions

A version is written as numbers between dots, each with blanks around it,
leading zeros and a plus sign as one likes. Versions are compared number
by number, and a missing number counts as zero: `"2"`, `"2.0"` and
`" +02 .0"` are one version.

A version keeps the text it was written as. Trailing zeros are dropped
from its components, so two versions are the same exactly when their
components are.
-/

namespace UploadHooks

structure Version where
  text : String
  components : List Nat
  deriving DecidableEq, Repr

namespace Version

inductive Fault where
  | empty
  | nonNumeric (version component : String)
  deriving DecidableEq, Repr

def Fault.message : Fault → String
  | .empty => "version string is empty"
  | .nonNumeric version component =>
    "version '" ++ version ++ "' has non-numeric component '" ++ component ++ "'"

/-- The trimmed pieces of a text between its dots. -/
def pieces (s : String) : List (List Char) := (s.toList.splitOn '.').map Text.trim

/-- The number of a trimmed piece. -/
def component? (piece : List Char) : Option Nat :=
  (Numeric.readUpTo Numeric.max64 piece).toOption

def readComponents (version : String) : List (List Char) → Except Fault (List Nat)
  | [] => .ok []
  | piece :: rest =>
    match component? piece with
    | none => .error (.nonNumeric version (String.ofList piece))
    | some n => (readComponents version rest).map (n :: ·)

def dropTrailingZeros (components : List Nat) : List Nat :=
  (components.reverse.dropWhile (· == 0)).reverse

def parse (s : String) : Except Fault Version :=
  if Text.isAllBlank s then .error .empty
  else (readComponents s (pieces s)).map fun components => ⟨s, dropTrailingZeros components⟩

/-- The first component, zero when all are. -/
def major (v : Version) : Nat := v.components.headD 0

/-- The component at a position; zero behind the last one. -/
def component (v : Version) (position : Nat) : Nat := v.components.getD position 0

/-- Two versions that denote the same numbers, however they are written. -/
def same (a b : Version) : Bool := a.components == b.components

/-- Numbers from the left; the shorter list goes on with zeros. -/
def compareComponents : List Nat → List Nat → Ordering
  | [], [] => .eq
  | [], b :: bs => (compare 0 b).then (compareComponents [] bs)
  | a :: as, [] => (compare a 0).then (compareComponents as [])
  | a :: as, b :: bs => (compare a b).then (compareComponents as bs)

def compare (a b : Version) : Ordering := compareComponents a.components b.components

/-- The order as one in which not all have to compare. Any two versions do. -/
def partialCompare (a b : Version) : Option Ordering := some (compare a b)

def le (a b : Version) : Bool := compare a b != .gt

/-- A number as eight bytes, the least significant one first. -/
def wordBytes (n : Nat) : List UInt8 := (List.range 8).map fun i => UInt8.ofNat (n / Nat.pow 256 i)

/-- What a hash of the version is taken of: how many components there are,
and then each of them. -/
def hashed (v : Version) : List UInt8 :=
  wordBytes v.components.length ++ v.components.flatMap wordBytes

/-- Oldest first; versions that denote the same numbers keep their order. -/
def sort (versions : List Version) : List Version := versions.mergeSort le

/-- The first of each run of versions that denote the same numbers. -/
def distinct : List Version → List Version
  | [] => []
  | v :: rest =>
    match distinct rest with
    | [] => [v]
    | w :: ws => if same v w then v :: ws else v :: w :: ws

/-- The first of the least versions. -/
def oldest? : List Version → Option Version
  | [] => none
  | v :: rest =>
    match oldest? rest with
    | none => some v
    | some w => if compare w v == .lt then some w else some v

/-- The last of the greatest versions. -/
def newest? : List Version → Option Version
  | [] => none
  | v :: rest =>
    match newest? rest with
    | none => some v
    | some w => if compare w v == .lt then some v else some w

end Version

end UploadHooks
