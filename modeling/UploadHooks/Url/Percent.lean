import UploadHooks.Text.Utf8

/-!
# Percent-encoding

A character outside the set a place allows is written as its UTF-8 bytes,
each as a percent sign and two upper-case hexadecimal digits. The sets
here say what is *encoded*; a control character and anything beyond ASCII
is in all of them.

`decode` takes the escapes apart again. A percent sign without two digits
behind it stands for itself.
-/

namespace UploadHooks

namespace Url

namespace Percent

def upperHexDigit (n : Nat) : Char := (Nat.digitChar n).toUpper

def encodeByte (b : UInt8) : List Char :=
  ['%', upperHexDigit (b.toNat / 16), upperHexDigit (b.toNat % 16)]

def encodeChar (inSet : Char → Bool) (c : Char) : List Char :=
  if inSet c then (String.utf8EncodeChar c).flatMap encodeByte else [c]

def encode (inSet : Char → Bool) (s : List Char) : List Char := s.flatMap (encodeChar inSet)

/-! ## The sets -/

/-- Controls and everything beyond ASCII. -/
def control (c : Char) : Bool := c.toNat < 0x20 || 0x7F ≤ c.toNat

def fragment (c : Char) : Bool :=
  control c || c == ' ' || c == '"' || c == '<' || c == '>' || c == '\x60'

def query (c : Char) : Bool :=
  control c || c == ' ' || c == '"' || c == '#' || c == '<' || c == '>'

def specialQuery (c : Char) : Bool := query c || c == '\x27'

def path (c : Char) : Bool :=
  fragment c || c == '#' || c == '?' || c == '\x7b' || c == '\x7d'

def userinfo (c : Char) : Bool :=
  path c || c == '/' || c == ':' || c == ';' || c == '=' || c == '@' || c == '[' ||
    c == '\\' || c == ']' || c == '^' || c == '|'

/-- A segment that is appended on its own must not be taken for several,
nor may a percent sign in it be taken for an escape. -/
def segment (c : Char) : Bool := path c || c == '/' || c == '%'

def specialSegment (c : Char) : Bool := segment c || c == '\\'

/-! ## Decoding -/

def hexValue? (b : UInt8) : Option Nat :=
  let n := b.toNat
  if 0x30 ≤ n ∧ n ≤ 0x39 then some (n - 0x30)
  else if 0x41 ≤ n ∧ n ≤ 0x46 then some (n - 0x41 + 10)
  else if 0x61 ≤ n ∧ n ≤ 0x66 then some (n - 0x61 + 10)
  else none

def decode : List UInt8 → List UInt8
  | [] => []
  | [a] => [a]
  | [a, b] => [a, b]
  | a :: b :: c :: rest =>
    match hexValue? b, hexValue? c with
    | some high, some low =>
      if a = 0x25 then UInt8.ofNat (high * 16 + low) :: decode rest
      else a :: decode (b :: c :: rest)
    | _, _ => a :: decode (b :: c :: rest)

/-- The text behind an encoded one, if its bytes are one. -/
def decodeText? (s : String) : Option String := Utf8.text? (decode (Utf8.encode s))

end Percent

end Url

end UploadHooks
