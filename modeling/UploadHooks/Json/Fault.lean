import UploadHooks.Text.Utf8

/-!
# Faults in JSON text

A fault names the problem and the place. While reading, the place is the
number of bytes that are left behind it, which a reader of a list knows
without counting what came before. `Fault.locate` turns that into a line
and a column once the whole text is at hand: lines count from one, and
the column is the number of bytes since the last line feed.
-/

namespace UploadHooks

namespace Json

inductive Problem where
  | endInValue
  | endInList
  | endInObject
  | endInString
  | expectedValue
  | expectedIdent
  | expectedColon
  | expectedListCommaOrEnd
  | expectedObjectCommaOrEnd
  | keyNotString
  | trailingComma
  | trailingCharacters
  | invalidNumber
  | numberOutOfRange
  | controlCharacter
  | invalidEscape
  | loneSurrogate
  | unexpectedEndOfEscape
  | tooDeep
  | invalidCodePoint
  deriving DecidableEq, Repr

def Problem.message : Problem → String
  | .endInValue => "EOF while parsing a value"
  | .endInList => "EOF while parsing a list"
  | .endInObject => "EOF while parsing an object"
  | .endInString => "EOF while parsing a string"
  | .expectedValue => "expected value"
  | .expectedIdent => "expected ident"
  | .expectedColon => "expected `:`"
  | .expectedListCommaOrEnd => "expected `,` or `]`"
  | .expectedObjectCommaOrEnd => "expected `,` or `\x7d`"
  | .keyNotString => "key must be a string"
  | .trailingComma => "trailing comma"
  | .trailingCharacters => "trailing characters"
  | .invalidNumber => "invalid number"
  | .numberOutOfRange => "number out of range"
  | .controlCharacter => "control character (\\u0000-\\u001F) found while parsing a string"
  | .invalidEscape => "invalid escape"
  | .loneSurrogate => "lone leading surrogate in hex escape"
  | .unexpectedEndOfEscape => "unexpected end of hex escape"
  | .tooDeep => "recursion limit exceeded"
  | .invalidCodePoint => "invalid unicode code point"

/-- A problem, and the number of bytes left behind the place where it was
noticed. -/
structure Fault where
  problem : Problem
  left : Nat
  deriving DecidableEq, Repr

/-- A problem with its place in the text. -/
structure SyntaxError where
  problem : Problem
  line : Nat
  column : Nat
  deriving DecidableEq, Repr

def SyntaxError.message (e : SyntaxError) : String :=
  e.problem.message ++ " at line " ++ Nat.repr e.line ++ " column " ++ Nat.repr e.column

namespace Fault

open Utf8

/-- Noticed just before the pieces `rest`. -/
def before (problem : Problem) (rest : List Piece) : Fault := ⟨problem, totalSize rest⟩

/-- Noticed at the first byte of `rest`, which counts as read; at the end
of the text if nothing is left. -/
def upon (problem : Problem) (rest : List Piece) : Fault := ⟨problem, totalSize rest - 1⟩

/-- Line and column after `offset` more bytes. -/
def advance (line column offset : Nat) : List Piece → Nat × Nat
  | [] => (line, column)
  | p :: rest =>
    if offset = 0 then (line, column)
    else if p = .char '\n' then advance (line + 1) 0 (offset - 1) rest
    else advance line (column + min offset p.size) (offset - p.size) rest

def locate (whole : List Piece) (fault : Fault) : SyntaxError :=
  let place := advance 1 0 (totalSize whole - fault.left) whole
  ⟨fault.problem, place.1, place.2⟩

end Fault

end Json

end UploadHooks
