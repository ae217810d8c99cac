import UploadHooks.Json.Fault
import UploadHooks.Json.Number

/-!
# Reading JSON text

The text is a list of `Utf8.Piece`s, so a document that is not UTF-8 can
be read up to the string in which that shows. Every function takes the
front off such a list and returns the rest.

A value is nested in at most 127 lists and objects. Reading recurses on a
bound on the number of values, which the length of the text supplies:
`Value.read` starts with it, and every value takes at least one piece.

Members of an object go through `Entries.insert`, so of two members with
one name the later one stays.
-/

namespace UploadHooks

namespace Json

open Utf8

abbrev Reading (α : Type) := Except Fault (α × List Piece)

/-- Space, line feed, tab and carriage return. -/
def isBlankPiece : Piece → Bool
  | .char c => c == ' ' || c == '\n' || c == '\t' || c == '\r'
  | .stray _ => false

def skipBlank (s : List Piece) : List Piece := s.dropWhile isBlankPiece

/-! ## Words -/

/-- The rest of a word whose first letter has been read. -/
def readWord : List Char → List Piece → Except Fault (List Piece)
  | [], s => .ok s
  | _ :: _, [] => .error (.before .endInValue [])
  | c :: cs, p :: s =>
    if p = .char c then readWord cs s else .error (.upon .expectedIdent (p :: s))

/-! ## Numbers -/

def digit? : Piece → Option Nat
  | .char c => if c.isDigit then some (Numeric.digitValue c) else none
  | .stray _ => none

def startsWithDigit : List Piece → Bool
  | [] => false
  | p :: _ => (digit? p).isSome

/-- Digits on top of `acc` as long as the number stays within `limit`: the
number, how many were taken, and the rest. -/
def takeDigits (limit acc taken : Nat) : List Piece → Nat × Nat × List Piece
  | [] => (acc, taken, [])
  | p :: s =>
    match digit? p with
    | some d =>
      if acc * 10 + d ≤ limit then takeDigits limit (acc * 10 + d) (taken + 1) s
      else (acc, taken, p :: s)
    | none => (acc, taken, p :: s)

/-- The digits at the front, counted, and the rest. -/
def skipDigits (s : List Piece) : Nat × List Piece :=
  let rest := s.dropWhile (fun p => (digit? p).isSome)
  (s.length - rest.length, rest)

def finish (negative : Bool) (significand : Nat) (e : Int) (s : List Piece) : Reading Number :=
  match Number.ofScaled negative significand e with
  | some n => .ok (n, s)
  | none => .error (.before .numberOutOfRange s)

/-- The largest exponent that is read digit by digit. -/
def exponentLimit : Nat := Nat.pow 2 31 - 1

/-- The exponent, after its mark: an optional sign and at least one digit.
An exponent beyond the limit makes the number zero or puts it out of
range, whichever its sign says. -/
def readExponent (negative : Bool) (significand : Nat) (e : Int) (s : List Piece) :
    Reading Number :=
  let (up, s) : Bool × List Piece :=
    match s with
    | .char '+' :: s => (true, s)
    | .char '-' :: s => (false, s)
    | s => (true, s)
  match s with
  | [] => .error (.before .endInValue [])
  | p :: s =>
    match digit? p with
    | none => .error (.upon .invalidNumber (p :: s))
    | some d =>
      let (n, _, rest) := takeDigits exponentLimit d 0 s
      if startsWithDigit rest then
        if significand ≠ 0 ∧ up then .error (.before .numberOutOfRange (rest.drop 1))
        else .ok (.float ⟨negative, .zero⟩, (skipDigits rest).2)
      else finish negative significand (if up then e + n else e - n) rest

def isExponentMark : Piece → Bool
  | .char c => c == 'e' || c == 'E'
  | .stray _ => false

/-- What follows the digits of a number that is a floating-point number. -/
def readTail (negative : Bool) (significand : Nat) (e : Int) : List Piece → Reading Number
  | [] => finish negative significand e []
  | p :: s =>
    if isExponentMark p then readExponent negative significand e s
    else finish negative significand e (p :: s)

/-- The fraction, after its point. Digits that no longer fit are dropped. -/
def readFraction (negative : Bool) (significand : Nat) (e : Int) (s : List Piece) :
    Reading Number :=
  let (n, taken, rest) := takeDigits Numeric.max64 significand 0 s
  if startsWithDigit rest then readTail negative n (e - taken) (skipDigits rest).2
  else if taken = 0 then
    if rest.isEmpty then .error (.upon .endInValue []) else .error (.upon .invalidNumber rest)
  else readTail negative n (e - taken) rest

/-- What follows the whole part, read as `significand * 10 ^ e`. -/
def readAfterWhole (negative : Bool) (significand e : Nat) : List Piece → Reading Number
  | .char '.' :: s => readFraction negative significand e s
  | s => readTail negative significand e s

/-- A number without its sign. -/
def readUnsigned (negative : Bool) : List Piece → Reading Number
  | [] => .error (.before .endInValue [])
  | p :: s =>
    match digit? p with
    | none => .error (.upon .invalidNumber (p :: s))
    | some d =>
      if d = 0 ∧ startsWithDigit s then .error (.upon .invalidNumber s)
      else
        let (n, _, rest) := takeDigits Numeric.max64 d 0 s
        if startsWithDigit rest then
          let (more, rest) := skipDigits rest
          readAfterWhole negative n more rest
        else
          match rest with
          | .char '.' :: s => readFraction negative n 0 s
          | p :: s =>
            if isExponentMark p then readExponent negative n 0 s
            else .ok (.ofSignificand negative n, p :: s)
          | [] => .ok (.ofSignificand negative n, [])

/-! ## Strings -/

def hexDigit? : Piece → Option Nat
  | .char c =>
    if c.isDigit then some (c.toNat - '0'.toNat)
    else if 'a' ≤ c ∧ c ≤ 'f' then some (c.toNat - 'a'.toNat + 10)
    else if 'A' ≤ c ∧ c ≤ 'F' then some (c.toNat - 'A'.toNat + 10)
    else none
  | .stray _ => none

/-- The four hexadecimal digits of an escape. -/
def hexDigits? : List Piece → Option (Nat × List Piece)
  | a :: b :: c :: d :: s =>
    match hexDigit? a, hexDigit? b, hexDigit? c, hexDigit? d with
    | some a, some b, some c, some d => some (((a * 16 + b) * 16 + c) * 16 + d, s)
    | _, _, _, _ => none
  | _ => none

/-- Four bytes count as read even when they are no digits; with fewer left
the text ends there. -/
def readHex (s : List Piece) : Reading Nat :=
  match hexDigits? s with
  | some r => .ok r
  | none =>
    if totalSize s < 4 then .error (.before .endInString [])
    else .error ⟨.invalidEscape, totalSize s - 4⟩

/-- The second half of a surrogate pair, with its own escape. -/
def readLowSurrogate (high : Nat) : List Piece → Reading Char
  | [] => .error (.before .endInString [])
  | .char '\\' :: s =>
    match s with
    | [] => .error (.before .endInString [])
    | .char 'u' :: s =>
      match readHex s with
      | .error e => .error e
      | .ok (low, s) =>
        if 0xDC00 ≤ low ∧ low ≤ 0xDFFF then
          .ok (Char.ofNat ((high - 0xD800) * 0x400 + (low - 0xDC00) + 0x10000), s)
        else .error (.before .loneSurrogate s)
    | s => .error (.upon .unexpectedEndOfEscape s)
  | s => .error (.upon .unexpectedEndOfEscape s)

/-- The character written by its number. Numbers in the surrogate range
come in pairs, the high one first. -/
def readCodePoint (s : List Piece) : Reading Char :=
  match readHex s with
  | .error e => .error e
  | .ok (n, s) =>
    if 0xDC00 ≤ n ∧ n ≤ 0xDFFF then .error (.before .loneSurrogate s)
    else if 0xD800 ≤ n ∧ n ≤ 0xDBFF then readLowSurrogate n s
    else .ok (Char.ofNat n, s)

/-- The characters that an escape of one letter stands for. -/
def simpleEscape? : Piece → Option Char
  | .char '"' => some '"'
  | .char '\\' => some '\\'
  | .char '/' => some '/'
  | .char 'b' => some '\x08'
  | .char 'f' => some '\x0c'
  | .char 'n' => some '\n'
  | .char 'r' => some '\r'
  | .char 't' => some '\t'
  | _ => none

/-- An escape, after its backslash. -/
def readEscape : List Piece → Reading Char
  | [] => .error (.before .endInString [])
  | .char 'u' :: s => readCodePoint s
  | p :: s =>
    match simpleEscape? p with
    | some c => .ok (c, s)
    | none => .error (.upon .invalidEscape (p :: s))

/-- The content of a string up to its closing quote, in reverse. -/
def readContent : Nat → List Piece → List Piece → Reading (List Piece)
  | 0, _, s => .error (.before .endInString s)
  | _ + 1, _, [] => .error (.before .endInString [])
  | bound + 1, content, p :: s =>
    match p with
    | .char '"' => .ok (content, s)
    | .char '\\' =>
      match readEscape s with
      | .error e => .error e
      | .ok (c, s) => readContent bound (.char c :: content) s
    | .char c =>
      if c.toNat < 0x20 then .error (.upon .controlCharacter (p :: s))
      else readContent bound (p :: content) s
    | .stray _ => readContent bound (p :: content) s

/-- A string, after its opening quote. Content that is no text is noticed
at the closing quote; the fault then lies as far before it as there are
bytes from the first stray one on. -/
def readString (s : List Piece) : Reading String :=
  match readContent (s.length + 1) [] s with
  | .error e => .error e
  | .ok (reversed, rest) =>
    let content := reversed.reverse
    if content.all Piece.isChar then .ok (String.ofList (content.filterMap Piece.char?), rest)
    else
      .error ⟨.invalidCodePoint, totalSize rest + totalSize (content.dropWhile Piece.isChar)⟩

/-! ## Values -/

/-- The deepest nesting, and one more for the value itself. -/
def depthLimit : Nat := 128

mutual

/-- A value, after blanks; `depth` levels of nesting remain. -/
def readValue : Nat → Nat → List Piece → Reading Value
  | 0, _, s => .error (.upon .endInValue s)
  | bound + 1, depth, s =>
    match skipBlank s with
    | [] => .error (.upon .endInValue [])
    | p :: rest =>
      match p with
      | .char 'n' => (readWord "ull".toList rest).map fun s => (.null, s)
      | .char 't' => (readWord "rue".toList rest).map fun s => (.bool true, s)
      | .char 'f' => (readWord "alse".toList rest).map fun s => (.bool false, s)
      | .char '-' => (readUnsigned true rest).map fun r => (.number r.1, r.2)
      | .char '"' => (readString rest).map fun r => (.string r.1, r.2)
      | .char '[' =>
        if depth ≤ 1 then .error (.upon .tooDeep (p :: rest))
        else (readItems bound (depth - 1) true [] rest).map fun r => (.array r.1.reverse, r.2)
      | .char '\x7b' =>
        if depth ≤ 1 then .error (.upon .tooDeep (p :: rest))
        else (readMembers bound (depth - 1) true [] rest).map fun r => (.object r.1, r.2)
      | p =>
        if (digit? p).isSome then (readUnsigned false (p :: rest)).map fun r => (.number r.1, r.2)
        else .error (.upon .expectedValue (p :: rest))

/-- The items of a list up to its closing bracket, in reverse. -/
def readItems : Nat → Nat → Bool → List Value → List Piece → Reading (List Value)
  | 0, _, _, _, s => .error (.upon .endInList s)
  | bound + 1, depth, first, items, s =>
    match skipBlank s with
    | [] => .error (.upon .endInList [])
    | p :: rest =>
      if p = .char ']' then .ok (items, rest)
      else if first then
        match readValue bound depth (p :: rest) with
        | .error e => .error e
        | .ok (v, s) => readItems bound depth false (v :: items) s
      else if p = .char ',' then
        match skipBlank rest with
        | [] => .error (.upon .endInValue [])
        | q :: rest =>
          if q = .char ']' then .error (.upon .trailingComma (q :: rest))
          else
            match readValue bound depth (q :: rest) with
            | .error e => .error e
            | .ok (v, s) => readItems bound depth false (v :: items) s
      else .error (.upon .expectedListCommaOrEnd (p :: rest))

/-- The members of an object up to its closing brace. -/
def readMembers : Nat → Nat → Bool → List (String × Value) → List Piece →
    Reading (List (String × Value))
  | 0, _, _, _, s => .error (.upon .endInObject s)
  | bound + 1, depth, first, members, s =>
    match skipBlank s with
    | [] => .error (.upon .endInObject [])
    | p :: rest =>
      if p = .char '\x7d' then .ok (members, rest)
      else if first then
        if p = .char '"' then readMember bound depth members rest
        else .error (.upon .keyNotString (p :: rest))
      else if p = .char ',' then
        match skipBlank rest with
        | [] => .error (.upon .endInValue [])
        | q :: rest =>
          if q = .char '"' then readMember bound depth members rest
          else if q = .char '\x7d' then .error (.upon .trailingComma (q :: rest))
          else .error (.upon .keyNotString (q :: rest))
      else .error (.upon .expectedObjectCommaOrEnd (p :: rest))

/-- A member, after the opening quote of its name, and those behind it. -/
def readMember : Nat → Nat → List (String × Value) → List Piece →
    Reading (List (String × Value))
  | 0, _, _, s => .error (.upon .endInObject s)
  | bound + 1, depth, members, s =>
    match readString s with
    | .error e => .error e
    | .ok (name, s) =>
      match skipBlank s with
      | [] => .error (.upon .endInObject [])
      | p :: rest =>
        if p = .char ':' then
          match readValue bound depth rest with
          | .error e => .error e
          | .ok (v, s) => readMembers bound depth false (Entries.insert name v members) s
        else .error (.upon .expectedColon (p :: rest))

end

/-- The whole text as one value. -/
def readPieces (s : List Piece) : Except Fault Value :=
  match readValue (2 * s.length + 2) depthLimit s with
  | .error e => .error e
  | .ok (v, rest) =>
    match skipBlank rest with
    | [] => .ok v
    | rest => .error (.upon .trailingCharacters rest)

namespace Value

def ofPieces (s : List Piece) : Except SyntaxError Value :=
  (readPieces s).mapError (Fault.locate s)

/-- The value written by a text. -/
def ofText (s : String) : Except SyntaxError Value := ofPieces (pieces s)

/-- The value written by bytes that need not be UTF-8. -/
def ofBytes (bytes : List UInt8) : Except SyntaxError Value := ofPieces (decode bytes)

end Value

end Json

end UploadHooks
