import UploadHooks.Json.Number

/-!
# Writing JSON text

Text is written without blanks between its tokens. In a string only the
quote, the backslash and the control characters below the space are
escaped; everything else, the solidus and non-ASCII characters included,
stands for itself.

The writers of lists and objects take items that are written already, so
that a record with a fixed order of members uses the same writer as a
value, whose members are in key order.
-/

namespace UploadHooks

namespace Json

/-- A hexadecimal digit, in lower case. -/
def hexChar (n : Nat) : Char := Nat.digitChar n

/-- The escape of a control character that has no letter. -/
def numberEscape (c : Char) : List Char :=
  ['\\', 'u', '0', '0', hexChar (c.toNat / 16), hexChar (c.toNat % 16)]

def escapedChar (c : Char) : List Char :=
  match c with
  | '"' => ['\\', '"']
  | '\\' => ['\\', '\\']
  | '\x08' => ['\\', 'b']
  | '\x0c' => ['\\', 'f']
  | '\n' => ['\\', 'n']
  | '\r' => ['\\', 'r']
  | '\t' => ['\\', 't']
  | c => if c.toNat < 0x20 then numberEscape c else [c]

def stringChars (s : String) : List Char := ['"'] ++ s.toList.flatMap escapedChar ++ ['"']

/-- Written parts with a comma between any two. -/
def separated : List (List Char) → List Char
  | [] => []
  | [x] => x
  | x :: y :: rest => x ++ [','] ++ separated (y :: rest)

def listChars (items : List (List Char)) : List Char := ['['] ++ separated items ++ [']']

def memberChars (member : String × List Char) : List Char :=
  stringChars member.1 ++ [':'] ++ member.2

def objectChars (members : List (String × List Char)) : List Char :=
  ['\x7b'] ++ separated (members.map memberChars) ++ ['\x7d']

/-- A text, or null in its absence. -/
def textOrNullChars : Option String → List Char
  | some s => stringChars s
  | none => "null".toList

def boolChars (b : Bool) : List Char := if b then "true".toList else "false".toList

mutual

def Value.chars : Value → List Char
  | .null => "null".toList
  | .bool b => boolChars b
  | .number n => n.chars
  | .string s => stringChars s
  | .array items => listChars (itemChars items)
  | .object members => objectChars (memberValues members)

def itemChars : List Value → List (List Char)
  | [] => []
  | v :: rest => v.chars :: itemChars rest

def memberValues : List (String × Value) → List (String × List Char)
  | [] => []
  | (name, v) :: rest => (name, v.chars) :: memberValues rest

end

def Value.text (v : Value) : String := String.ofList v.chars

end Json

end UploadHooks
