/-!
# Tables over code points

A standard gives properties to characters by listing code points. Such a
list is kept as text: entries with blanks between them, code points in
hexadecimal, a hyphen between the two ends of a span. `CodePoints.ofText`
reads `5D0-5EA 5EF` as the span from `5D0` to `5EA` and the one code point
`5EF`; `CodePoints.contains` asks whether a character is in one of them.

The tables are short, so looking through them in order is fast enough. A
property decides on the characters of ASCII without its table.
-/

namespace UploadHooks

namespace Text

/-! ## Reading a table -/

/-- The entries of a table. -/
def entries (table : String) : List (List Char) :=
  (table.toList.splitOnP Char.isWhitespace).filter (!List.isEmpty ·)

def hexDigit (c : Char) : Nat := if c.isDigit then c.toNat - 0x30 else c.toNat - 0x41 + 10

/-- A code point from its hexadecimal digits. -/
def codePoint (digits : List Char) : Nat := digits.foldl (fun n c => n * 16 + hexDigit c) 0

/-- What stands before and after the first `mark`; without one, everything
stands before. -/
def cut (mark : Char) (text : List Char) : List Char × List Char :=
  let (front, back) := text.span (· != mark)
  (front, back.drop 1)

end Text

/-! ## Sets -/

namespace CodePoints

/-- Code points from `first` to `last`, both included. -/
structure Span where
  first : Nat
  last : Nat
  deriving DecidableEq, Repr

def Span.ofText (text : List Char) : Span :=
  let (first, last) := Text.cut '-' text
  ⟨Text.codePoint first, Text.codePoint (if last.isEmpty then first else last)⟩

def Span.contains (s : Span) (n : Nat) : Bool := s.first ≤ n && n ≤ s.last

end CodePoints

abbrev CodePoints := List CodePoints.Span

namespace CodePoints

def ofText (table : String) : CodePoints := (Text.entries table).map Span.ofText

def contains (s : CodePoints) (c : Char) : Bool := s.any (·.contains c.toNat)

end CodePoints

end UploadHooks
