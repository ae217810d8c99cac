/-!
# Bytes as text

Bodies and documents arrive as bytes that need not be UTF-8. `decode`
splits them into `Piece`s: characters, and stray runs that belong to no
character. A stray run is as long as the bytes that could still have
begun a character, so two readings come from one decoding:

- `lossyText` puts one replacement character for each run, as a reader
  of an HTTP body does;
- `text?` refuses the bytes as soon as there is a run.

`Piece.size` keeps the number of bytes behind each piece, because
positions in a document are counted in bytes.
-/

namespace UploadHooks

namespace Utf8

/-- A character, or a run of bytes that is none. -/
inductive Piece where
  | char (c : Char)
  | stray (size : Nat)
  deriving DecidableEq, Repr

namespace Piece

/-- How many bytes the piece stands for. -/
def size : Piece → Nat
  | .char c => c.utf8Size
  | .stray n => n

def isChar : Piece → Bool
  | .char _ => true
  | .stray _ => false

def char? : Piece → Option Char
  | .char c => some c
  | .stray _ => none

/-- A stray run is shown as one replacement character. -/
def shown : Piece → Char
  | .char c => c
  | .stray _ => '\ufffd'

end Piece

/-! ## Encoding -/

def encodeChars (s : List Char) : List UInt8 := s.flatMap String.utf8EncodeChar

def encode (s : String) : List UInt8 := encodeChars s.toList

/-! ## Decoding -/

/-- The value bits of a leading byte, and for each byte that has to
follow it the least and the greatest value allowed. The bounds of the
first one keep out over-long forms, surrogates and values beyond the last
code point. -/
def leading (b : UInt8) : Option (Nat × List (Nat × Nat)) :=
  let n := b.toNat
  let tail := (0x80, 0xBF)
  if n < 0x80 then some (n, [])
  else if n < 0xC2 then none
  else if n < 0xE0 then some (n - 0xC0, [tail])
  else if n = 0xE0 then some (0, [(0xA0, 0xBF), tail])
  else if n = 0xED then some (0xD, [(0x80, 0x9F), tail])
  else if n < 0xF0 then some (n - 0xE0, [tail, tail])
  else if n = 0xF0 then some (0, [(0x90, 0xBF), tail, tail])
  else if n < 0xF4 then some (n - 0xF0, [tail, tail, tail])
  else if n = 0xF4 then some (4, [(0x80, 0x8F), tail, tail])
  else none

/-- Takes the bytes that fit the bounds, in order, adding six value bits
for each: the value so far, how many were taken, the bounds left over and
the bytes left over. -/
def follow (value taken : Nat) : List (Nat × Nat) → List UInt8 →
    Nat × Nat × List (Nat × Nat) × List UInt8
  | [], rest => (value, taken, [], rest)
  | bounds, [] => (value, taken, bounds, [])
  | (lo, hi) :: bounds, b :: rest =>
    if lo ≤ b.toNat ∧ b.toNat ≤ hi then
      follow (value * 64 + (b.toNat - 0x80)) (taken + 1) bounds rest
    else (value, taken, (lo, hi) :: bounds, b :: rest)

/-- `follow` never gives back more bytes than it was given. -/
theorem follow_rest_length (value taken : Nat) (bounds : List (Nat × Nat)) (bytes : List UInt8) :
    (follow value taken bounds bytes).2.2.2.length ≤ bytes.length := by
  induction bytes generalizing value taken bounds with
  | nil => cases bounds <;> simp [follow]
  | cons b rest ih =>
    cases bounds with
    | nil => simp [follow]
    | cons bound bounds =>
      simp only [follow]
      split
      · exact Nat.le_succ_of_le (ih _ _ _)
      · simp

/-- Splits bytes into characters and stray runs. -/
def decode : List UInt8 → List Piece
  | [] => []
  | b :: rest =>
    match leading b with
    | none => .stray 1 :: decode rest
    | some (value, bounds) =>
      let step := follow value 1 bounds rest
      (if step.2.2.1.isEmpty then .char (Char.ofNat step.1) else .stray step.2.1) ::
        decode step.2.2.2
  termination_by bytes => bytes.length
  decreasing_by
    · simp
    · exact Nat.lt_succ_of_le (follow_rest_length ..)

/-- The pieces of a text that is known to be one. -/
def pieces (s : String) : List Piece := s.toList.map .char

/-- The text, with each stray run replaced. -/
def lossyText (bytes : List UInt8) : String := String.ofList ((decode bytes).map Piece.shown)

/-- The text, if the bytes are one. -/
def text? (bytes : List UInt8) : Option String :=
  ((decode bytes).mapM Piece.char?).map String.ofList

/-- How many bytes the pieces stand for. -/
def totalSize (ps : List Piece) : Nat := ps.foldr (fun p size => p.size + size) 0

end Utf8

end UploadHooks
