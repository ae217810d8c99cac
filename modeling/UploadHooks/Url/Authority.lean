import UploadHooks.Url.Basic
import UploadHooks.Url.Host
import UploadHooks.Url.Path

/-!
# Authorities

An authority is a user name and password, which the last at sign ends, a
host, and a port. Which hosts there are depends on the scheme. Errors are
found from the left: first the host, then the port.

A slash, a query or a fragment ends it. Only digits may stand between the
port and that end, except that a backslash is taken for the path whatever
the scheme.
-/

namespace UploadHooks

namespace Url

/-! ## User name and password -/

/-- The text before and after the last at sign, if there is one. -/
def splitLastAt : List Char → Option (List Char × List Char)
  | [] => none
  | c :: rest =>
    match splitLastAt rest with
    | some (front, back) => some (c :: front, back)
    | none => if c = '@' then some ([], rest) else none

def encodeUser (text : List Char) : String := String.ofList (Percent.encode Percent.userinfo text)

/-- User name and password; the first colon separates them. -/
def readUserinfo (text : List Char) : String × String :=
  let (user, rest) := text.span (· != ':')
  (encodeUser user, encodeUser (rest.drop 1))

/-! ## Host and port -/

/-- The host up to a colon outside brackets, and the rest. -/
def spanHost (inside : Bool) : List Char → List Char × List Char
  | [] => ([], [])
  | c :: rest =>
    if c = ':' ∧ inside = false then ([], c :: rest)
    else
      let (host, tail) :=
        spanHost (if c = '[' then true else if c = ']' then false else inside) rest
      (c :: host, tail)

/-- The port after its colon, up to the end or a backslash, and the text
from there. The scheme's own port is not kept. -/
def readPort (scheme : String) (text : List Char) : Except Fault (Option Nat × List Char) :=
  let (digits, rest) := text.span Char.isDigit
  match rest with
  | [] | '\\' :: _ =>
    if digits.isEmpty then .ok (none, rest)
    else
      match Numeric.readDigits 65535 0 digits with
      | .ok port => .ok (if defaultPort? scheme = some port then none else some port, rest)
      | .error _ => .error .invalidPort
  | _ => .error .invalidPort

/-- Host and port. What a backslash after the port leaves belongs to the
path. -/
def readHostPort (scheme : String) (text : List Char) :
    Except Fault (String × Option Nat × List Char) := do
  let special := isSpecialScheme scheme
  let (hostText, rest) := spanHost false text
  if special && hostText.isEmpty then throw .emptyHost
  let host ← if special then Host.readSpecial hostText else Host.readOther hostText
  match rest with
  | ':' :: portText =>
    if host = "" then throw .emptyHost
    let (port, rest) ← readPort scheme portText
    return (host, port, rest)
  | rest => return (host, none, rest)

/-! ## Together -/

/-- The authority, and the text left over. -/
def readAuthority (scheme : String) (text : List Char) : Except Fault (Authority × List Char) := do
  match splitLastAt text with
  | none =>
    let (host, port, rest) ← readHostPort scheme text
    return (⟨"", "", host, port⟩, rest)
  | some (user, hostText) =>
    let (username, password) := readUserinfo user
    let (host, port, rest) ← readHostPort scheme hostText
    if host = "" ∧ ¬ (username = "" ∧ password = "") then throw .emptyHost
    return (⟨username, password, host, port⟩, rest)

def isAuthorityEnd (special : Bool) (c : Char) : Bool := isQueryStart c || isSlash special c

/-- Whether nothing but an at sign comes before the end of an authority
with something behind it. Then the host that was announced is missing. -/
def lacksHost (front rest : List Char) : Bool :=
  !rest.isEmpty && (splitLastAt front).any fun s => s.1.isEmpty && s.2.isEmpty

end Url

end UploadHooks
