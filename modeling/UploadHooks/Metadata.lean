import UploadHooks.Json.Reader
import UploadHooks.Json.Writer

/-!
# Upload metadata

The metadata of an upload is a flat map from field names to texts. It
arrives as a JSON object: strings are kept as they are, numbers and
booleans become their JSON text, and anything else is refused. It can
also be put together from pairs, of which the last of one name counts.

Fields are kept in the order of their names, which is part of the type,
so equal metadata is written equally.
-/

namespace UploadHooks

structure Metadata where
  entries : Entries String
  ascending : Entries.Ascending entries

namespace Metadata

instance : DecidableEq Metadata := fun a b =>
  decidable_of_iff (a.entries = b.entries) ⟨fun h => by cases a; cases b; cases h; rfl,
    fun h => by rw [h]⟩

def empty : Metadata := ⟨[], List.Pairwise.nil⟩

def ofPairs (pairs : List (String × String)) : Metadata :=
  ⟨Entries.ofPairs pairs, Entries.ofPairs_ascending pairs⟩

def get? (m : Metadata) (field : String) : Option String := m.entries.get? field

/-- Whether the field is there, with any value. -/
def contains (m : Metadata) (field : String) : Bool := (m.get? field).isSome

def size (m : Metadata) : Nat := m.entries.length

def isEmpty (m : Metadata) : Bool := m.entries.isEmpty

/-! ## JSON -/

/-- Why a text is not the metadata of an upload. -/
inductive Fault where
  | malformed (error : Json.SyntaxError)
  | notAnObject (kind : Json.Kind)
  | unsupportedValue (field : String) (kind : Json.Kind)
  deriving DecidableEq, Repr

def Fault.message : Fault → String
  | .malformed error => "metadata is not valid JSON: " ++ error.message
  | .notAnObject kind => "metadata must be a JSON object, got " ++ kind.name
  | .unsupportedValue field kind =>
    "metadata field '" ++ field ++ "' must be a string, number or boolean, got " ++ kind.name

/-- The flat text of a value, for the kinds that have one. -/
def flatText? : Json.Value → Option String
  | .string s => some s
  | .number n => some n.text
  | .bool b => some (String.ofList (Json.boolChars b))
  | _ => none

/-- Every member as a field; the first one without a flat text is an
error. -/
def flatten : List (String × Json.Value) → Except Fault (List (String × String))
  | [] => .ok []
  | (field, value) :: rest =>
    match flatText? value with
    | none => .error (.unsupportedValue field value.kind)
    | some text => (flatten rest).map ((field, text) :: ·)

def ofValue : Json.Value → Except Fault Metadata
  | .object members => (flatten members).map ofPairs
  | value => .error (.notAnObject value.kind)

def ofJson (text : String) : Except Fault Metadata :=
  match Json.Value.ofText text with
  | .error error => .error (.malformed error)
  | .ok value => ofValue value

/-- The fields as a JSON object of strings. -/
def jsonChars (m : Metadata) : List Char :=
  Json.objectChars (m.entries.map fun p => (p.1, Json.stringChars p.2))

def json (m : Metadata) : String := String.ofList m.jsonChars

end Metadata

end UploadHooks
