import UploadHooks.Json.Writer
import UploadHooks.Text.Quoted

/-!
# Values of an expected shape

Documents are decoded in two steps: the text becomes a value, and the
value is read as a text, a list or a record. `Mismatch` says what does
not fit; there is no place any more, only the value that was found.

A record is written as an object, whose members are read in key order and
of which unknown ones are ignored, or as an array of its fields in their
declared order. The readers here are the parts all records share.
-/

namespace UploadHooks

namespace Json

inductive Mismatch where
  | wrongType (found : Value) (expected : String)
  | missingField (name : String)
  | duplicateField (name : String)
  | tooShort (length : Nat) (expected : String)
  | tooLong (length : Nat)
  | notAFlag (text : String)
  | noVariant (name : String)
  deriving Repr, BEq

/-- How a value is described when another kind was expected. -/
def Value.description : Value → String
  | .null => "null"
  | .bool b => "boolean `" ++ String.ofList (boolChars b) ++ "`"
  | .number (.integer n) => "integer `" ++ String.ofList (integerText n) ++ "`"
  | .number (.float x) => "floating point `" ++ String.ofList (binaryText x) ++ "`"
  | .string s => "string " ++ Text.quoted s
  | .array _ => "sequence"
  | .object _ => "map"

def Mismatch.message : Mismatch → String
  | .wrongType found expected => "invalid type: " ++ found.description ++ ", expected " ++ expected
  | .missingField name => "missing field `" ++ name ++ "`"
  | .duplicateField name => "duplicate field `" ++ name ++ "`"
  | .tooShort length expected =>
    "invalid length " ++ Nat.repr length ++ ", expected " ++ expected
  | .tooLong length =>
    "invalid length " ++ Nat.repr length ++ ", expected fewer elements in array"
  | .notAFlag text =>
    "expected boolean or \"true\"/\"false\" for 'required', got \"" ++ text ++ "\""
  | .noVariant name => "data did not match any variant of untagged enum " ++ name

abbrev Decoded (α : Type) := Except Mismatch α

namespace Value

def asText : Value → Decoded String
  | .string s => .ok s
  | v => .error (.wrongType v "a string")

/-- A value or null. -/
def asOption {α : Type} (read : Value → Decoded α) : Value → Decoded (Option α)
  | .null => .ok none
  | v => (read v).map some

/-- A list, every item of which is read in turn. -/
def asList {α : Type} (read : Value → Decoded α) : Value → Decoded (List α)
  | .array items => items.mapM read
  | v => .error (.wrongType v "a sequence")

end Value

/-! ## Records -/

/-- Sets a field that has not been read before. -/
def setOnce {α : Type} (name : String) (slot : Option α) (value : Decoded α) :
    Decoded (Option α) :=
  match slot with
  | some _ => .error (.duplicateField name)
  | none => value.map some

/-- A field that has to be there. -/
def required {α : Type} (name : String) (slot : Option α) : Decoded α :=
  slot.elim (.error (.missingField name)) .ok

/-- The next element of a record written as an array; `position` counts
those before it. -/
def element {α : Type} (read : Value → Decoded α) (whole : String) (position : Nat) :
    List Value → Decoded (α × List Value)
  | [] => .error (.tooShort position whole)
  | v :: rest => (read v).map (·, rest)

/-- The next element of a record, or a default when there is none. -/
def elementOr {α : Type} (read : Value → Decoded α) (default : α) :
    List Value → Decoded (α × List Value)
  | [] => .ok (default, [])
  | v :: rest => (read v).map (·, rest)

/-- A record written as an array must not go on. -/
def noMore (total : Nat) : List Value → Decoded Unit
  | [] => .ok ()
  | _ :: _ => .error (.tooLong total)

end Json

end UploadHooks
