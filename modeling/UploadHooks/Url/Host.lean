import UploadHooks.Numeric.Natural
import UploadHooks.Url.Domain
import UploadHooks.Url.Percent

/-!
# Hosts

The host of a special URL is an address or a domain name. Brackets
enclose an IPv6 address. Anything else is percent-decoded and read as a
domain name; when its last label is a number it has to be an IPv4
address, whose parts may be decimal, octal or hexadecimal and of which
the last one fills the remaining bytes. Hosts are written in one form
only: dotted decimal, compressed hexadecimal groups, or lower-case ASCII.

The host of any other URL is any text without the delimiters of a URL.
-/

namespace UploadHooks

namespace Url

/-- Why a text is not a URL. -/
inductive Fault where
  | noBase
  | emptyHost
  | invalidPort
  | invalidDomain
  | invalidDomainCharacter
  | invalidIpv4
  | invalidIpv6
  deriving DecidableEq, Repr

def Fault.message : Fault → String
  | .noBase => "relative URL without a base"
  | .emptyHost => "empty host"
  | .invalidPort => "invalid port number"
  | .invalidDomain => "invalid international domain name"
  | .invalidDomainCharacter => "invalid domain character"
  | .invalidIpv4 => "invalid IPv4 address"
  | .invalidIpv6 => "invalid IPv6 address"

namespace Host

/-! ## IPv4 -/

def hexValue? (c : Char) : Option Nat := Percent.hexValue? (UInt8.ofNat c.toNat)

def isHexDigit (c : Char) : Bool := c.toNat < 0x80 && (hexValue? c).isSome

def isOctalDigit (c : Char) : Bool := '0' ≤ c && c ≤ '7'

def valueIn (base : Nat) (digits : List Char) : Nat :=
  digits.foldl (fun n c => n * base + (hexValue? c).getD 0) 0

/-- A part of an IPv4 address: hexadecimal after `0x`, octal after `0`. A
prefix without digits is zero. -/
def ipv4Part? : List Char → Option Nat
  | [] => none
  | '0' :: x :: digits =>
    if x = 'x' ∨ x = 'X' then
      if digits.all isHexDigit then some (valueIn 16 digits) else none
    else if (x :: digits).all isOctalDigit then some (valueIn 8 (x :: digits)) else none
  | digits => if digits.all Char.isDigit then some (valueIn 10 digits) else none

/-- The labels of a name, less an empty last one. -/
def labels (name : List Char) : List (List Char) :=
  let parts := name.splitOn '.'
  if parts.getLast? = some [] then parts.dropLast else parts

/-- Whether the name has to be an IPv4 address. -/
def endsInNumber (name : List Char) : Bool :=
  match (labels name).getLast? with
  | none => false
  | some last => (!last.isEmpty && last.all Char.isDigit) || (ipv4Part? last).isSome

/-- All parts but the last are bytes; the last fills the bytes that are
left. -/
def ipv4? (name : List Char) : Option Nat :=
  let parts := labels name
  if 4 < parts.length then none
  else
    match (parts.mapM ipv4Part?).map List.reverse with
    | some (last :: others) =>
      if last < Nat.pow 256 (4 - others.length) ∧ others.all (· < 256) then
        some (others.reverse.zipIdx.foldl (fun n p => n + p.1 * Nat.pow 256 (3 - p.2)) last)
      else none
    | _ => none

def ipv4Text (address : Nat) : String :=
  String.intercalate "." ([3, 2, 1, 0].map fun i => Nat.repr (address / Nat.pow 256 i % 256))

/-! ## IPv6 -/

def hexGroup? (digits : List Char) : Option Nat :=
  if digits.isEmpty ∨ 4 < digits.length ∨ ¬ digits.all isHexDigit then none
  else some (valueIn 16 digits)

/-- A byte in decimal without leading zeros. -/
def byte? (digits : List Char) : Option Nat :=
  if digits.isEmpty ∨ ¬ digits.all Char.isDigit then none
  else if 1 < digits.length ∧ digits.head? = some '0' then none
  else if valueIn 10 digits < 256 then some (valueIn 10 digits) else none

/-- The last two groups may be written as four bytes between dots. -/
def lastGroups? (text : List Char) : Option (List Nat) :=
  match (text.splitOn '.').mapM byte? with
  | some [a, b, c, d] => some [a * 256 + b, c * 256 + d]
  | _ => (hexGroup? text).map ([·])

/-- Groups between colons; only the last may be dotted. -/
def groups? (lastMayBeDotted : Bool) : List (List Char) → Option (List Nat)
  | [] => some []
  | [last] => if lastMayBeDotted then lastGroups? last else (hexGroup? last).map ([·])
  | group :: rest =>
    match hexGroup? group, groups? lastMayBeDotted rest with
    | some g, some gs => some (g :: gs)
    | _, _ => none

/-- The groups on one side of the compression, of which there may be
none. -/
def side? (lastMayBeDotted : Bool) (text : List Char) : Option (List Nat) :=
  if text.isEmpty then some [] else groups? lastMayBeDotted (text.splitOn ':')

/-- The text before and after the first two colons in a row. -/
def splitCompression : List Char → Option (List Char × List Char)
  | [] => none
  | ':' :: ':' :: rest => some ([], rest)
  | c :: rest => (splitCompression rest).map fun s => (c :: s.1, s.2)

/-- The eight groups of an address. Two colons in a row stand for at least
one group of zeros. -/
def ipv6? (text : List Char) : Option (List Nat) :=
  match splitCompression text with
  | none => (side? true text).filter (·.length == 8)
  | some (front, back) =>
    match side? false front, side? true back with
    | some before, some after =>
      let missing := 8 - (before.length + after.length)
      if missing = 0 then none else some (before ++ List.replicate missing 0 ++ after)
    | _, _ => none

/-- The number of zeros at the front. -/
def zeroRun (groups : List Nat) : Nat := (groups.takeWhile (· == 0)).length

/-- The longest run of at least two zeros, as its start and its length;
the first of several. -/
def longestRun (groups : List Nat) : Option (Nat × Nat) :=
  ((List.range groups.length).map fun i => (i, zeroRun (groups.drop i))).foldl
    (fun best run => if run.2 ≥ 2 ∧ best.elim true (·.2 < run.2) then some run else best) none

def hexGroups (groups : List Nat) : String :=
  String.intercalate ":" (groups.map fun g => String.ofList (Nat.toDigits 16 g))

def ipv6Text (groups : List Nat) : String :=
  match longestRun groups with
  | none => hexGroups groups
  | some (start, length) =>
    hexGroups (groups.take start) ++ "::" ++ hexGroups (groups.drop (start + length))

/-! ## Reading a host -/

/-- An address between brackets, if there is an opening one. -/
def bracketed? : List Char → Option (Except Fault String)
  | '[' :: rest =>
    some <|
      if rest.getLast? = some ']' then
        match ipv6? rest.dropLast with
        | some groups => .ok ("[" ++ ipv6Text groups ++ "]")
        | none => .error .invalidIpv6
      else .error .invalidIpv6
  | _ => none

/-- The host of a special URL. -/
def readSpecial (text : List Char) : Except Fault String :=
  match bracketed? text with
  | some host => host
  | none =>
    let decoded := (Utf8.lossyText (Percent.decode (Utf8.encodeChars text))).toList
    match Domain.toAscii? decoded with
    | none => .error .invalidDomain
    | some [] => .error .emptyHost
    | some name =>
      if endsInNumber name then
        match ipv4? name with
        | some address => .ok (ipv4Text address)
        | none => .error .invalidIpv4
      else .ok (String.ofList name)

/-- The delimiters that no host may hold. -/
def isDelimiter (c : Char) : Bool := "\x00\t\n\r #/:<>?@[\\]^|".toList.contains c

/-- The host of any other URL. -/
def readOther (text : List Char) : Except Fault String :=
  match bracketed? text with
  | some host => host
  | none =>
    if text.any isDelimiter then .error .invalidDomainCharacter
    else .ok (String.ofList (Percent.encode Percent.control text))

end Host

end Url

end UploadHooks
