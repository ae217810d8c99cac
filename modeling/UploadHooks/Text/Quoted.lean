import UploadHooks.Text.Unprintable

/-!
# Quoted text

Messages show a text that came from outside between double quotes, so
that its ends and its blanks can be seen: quotes and backslashes are
escaped, the common controls have short forms, and any other character
without a shape of its own is written by its number. The apostrophe stays
as it is.

A list of such texts is written in square brackets.
-/

namespace UploadHooks

namespace Text

/-- Lower-case hexadecimal digits, as few as the number needs. -/
def lowerHex (n : Nat) : List Char := Nat.toDigits 16 n

def quotedChar (c : Char) : List Char :=
  match c with
  | '"' => ['\\', '"']
  | '\\' => ['\\', '\\']
  | '\n' => ['\\', 'n']
  | '\r' => ['\\', 'r']
  | '\t' => ['\\', 't']
  | '\x00' => ['\\', '0']
  | c =>
    if isUnprintable c then ['\\', 'u', '\x7b'] ++ lowerHex c.toNat ++ ['\x7d'] else [c]

/-- The text between double quotes, with what needs it escaped. -/
def quoted (s : String) : String :=
  String.ofList (['"'] ++ s.toList.flatMap quotedChar ++ ['"'])

def quotedList (texts : List String) : String :=
  "[" ++ String.intercalate ", " (texts.map quoted) ++ "]"

end Text

end UploadHooks
