/-!
# URLs

A URL is kept in the parts its text has, each part already in its written,
percent-encoded form. The path is a list of segments, so that appending
and dropping segments are list operations; a URL without a hierarchy
(`mailto:…`) has a single piece of text instead and cannot be a base.

`text` writes the parts down. Segments are each preceded by a slash.
-/

namespace UploadHooks

structure Authority where
  username : String
  password : String
  host : String
  port : Option Nat
  deriving DecidableEq, Repr

namespace Url

/-- What stands between the scheme and the path. A path that starts with
two slashes would read as an authority, so without an authority a dot is
put in front of it. This guard belongs to the URL as it was read: it stays
when the path is changed. -/
inductive Front where
  | plain
  | guarded
  | authority (a : Authority)
  deriving DecidableEq, Repr

inductive Path where
  | segments (names : List String)
  | bare (text : String)
  deriving DecidableEq, Repr

end Url

structure Url where
  scheme : String
  front : Url.Front
  path : Url.Path
  query : Option String
  fragment : Option String
  deriving DecidableEq, Repr

namespace Authority

def credentials (a : Authority) : String :=
  if a.username = "" ∧ a.password = "" then ""
  else a.username ++ (if a.password = "" then "" else ":" ++ a.password) ++ "@"

def text (a : Authority) : String :=
  "//" ++ a.credentials ++ a.host ++ (a.port.elim "" fun p => ":" ++ Nat.repr p)

end Authority

namespace Url

def Front.text : Front → String
  | .plain => ""
  | .guarded => "/."
  | .authority a => a.text

def Path.text : Path → String
  | .segments names => String.join (names.map ("/" ++ ·))
  | .bare text => text

/-- Schemes whose URLs always have an authority and a hierarchy. -/
def specialSchemes : List String := ["http", "https", "ws", "wss", "ftp", "file"]

def isSpecialScheme (scheme : String) : Bool := specialSchemes.contains scheme

/-- The port that a scheme's URLs do not write. -/
def defaultPort? : String → Option Nat
  | "http" => some 80
  | "ws" => some 80
  | "https" => some 443
  | "wss" => some 443
  | "ftp" => some 21
  | _ => none

/-- The host, if it has one. -/
def host (u : Url) : String :=
  match u.front with
  | .authority a => a.host
  | _ => ""

def isSpecial (u : Url) : Bool := isSpecialScheme u.scheme

/-- Whether requests can be sent to it. -/
def isWeb (u : Url) : Bool := u.scheme == "http" || u.scheme == "https"

/-- Whether it has a path that segments can be appended to. -/
def canBeBase (u : Url) : Bool :=
  match u.path with
  | .segments _ => true
  | .bare _ => false

/-- Path and query, as a request line has them. -/
def target (u : Url) : String := u.path.text ++ u.query.elim "" ("?" ++ ·)

def text (u : Url) : String :=
  u.scheme ++ ":" ++ u.front.text ++ u.path.text ++
    u.query.elim "" ("?" ++ ·) ++ u.fragment.elim "" ("#" ++ ·)

end Url

end UploadHooks
