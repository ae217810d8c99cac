import UploadHooks.Url.Percent

/-!
# Query parameters

Parameters are written as a form does: letters, digits and `*-._` stand
for themselves, a space becomes a plus sign, and every other byte is
percent-encoded. An equals sign follows the name and an ampersand
separates two parameters, so neither can occur inside one.

`decode` is the reading of a form: a query is split at its ampersands and
each piece at its first equals sign. A piece without text is no parameter,
and one without an equals sign is a name without a value.
-/

namespace UploadHooks

namespace Url

namespace Form

def isPlain (c : Char) : Bool :=
  c.isAlphanum || c == '*' || c == '-' || c == '.' || c == '_'

def encodeChar (c : Char) : List Char :=
  if isPlain c then [c]
  else if c = ' ' then ['+']
  else (String.utf8EncodeChar c).flatMap Percent.encodeByte

def encodeText (s : String) : List Char := s.toList.flatMap encodeChar

def encodePair (pair : String × String) : List Char :=
  encodeText pair.1 ++ ['='] ++ encodeText pair.2

/-- The pairs behind what a query holds already; nothing separates the
first pair from an empty query. -/
def append (query : List Char) : List (String × String) → List Char
  | [] => query
  | pair :: rest =>
    append (query ++ (if query.isEmpty then [] else ['&']) ++ encodePair pair) rest

/-! ## Reading -/

def plusToSpace (b : UInt8) : UInt8 := if b = 0x2B then 0x20 else b

/-- The text of a name or value. Bytes that are no text are replaced. -/
def decodeText (bytes : List UInt8) : String :=
  Utf8.lossyText (Percent.decode (bytes.map plusToSpace))

def decodePair (bytes : List UInt8) : String × String :=
  (decodeText (bytes.takeWhile (· != 0x3D)), decodeText ((bytes.dropWhile (· != 0x3D)).drop 1))

/-- The parameters in the bytes of a query. -/
def decode (bytes : List UInt8) : List (String × String) :=
  ((bytes.splitOnP (· == 0x26)).filter (!·.isEmpty)).map decodePair

end Form

end Url

end UploadHooks
