import UploadHooks.Entries
import UploadHooks.Numeric.Binary64

/-!
# JSON values

A number is kept as the whole number that its text denotes as long as it
fits 64 bits, signed or not, and as a binary floating-point number
otherwise. The members of an object stand in ascending order of their
names and no name occurs twice: of several members of one name only the
last is kept.
-/

namespace UploadHooks

namespace Json

inductive Number where
  | integer (n : Int)
  | float (x : Numeric.Binary64)
  deriving DecidableEq, Repr

inductive Value where
  | null
  | bool (b : Bool)
  | number (n : Number)
  | string (s : String)
  | array (items : List Value)
  | object (members : List (String × Value))
  deriving Repr, BEq, Inhabited

/-- The six kinds of value. -/
inductive Kind where
  | null
  | boolean
  | number
  | string
  | array
  | object
  deriving DecidableEq, Repr

def Kind.name : Kind → String
  | .null => "null"
  | .boolean => "boolean"
  | .number => "number"
  | .string => "string"
  | .array => "array"
  | .object => "object"

namespace Value

def kind : Value → Kind
  | .null => .null
  | .bool _ => .boolean
  | .number _ => .number
  | .string _ => .string
  | .array _ => .array
  | .object _ => .object

/-- The member of an object; nothing for any other value. -/
def member? (v : Value) (name : String) : Option Value :=
  match v with
  | .object members => Entries.get? members name
  | _ => none

end Value

end Json

end UploadHooks
