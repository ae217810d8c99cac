import UploadHooks.Url.File

/-!
# Reading URLs

A URL is read from the left. Blanks and controls around it and tabs and
line breaks inside it count for nothing. After the scheme there are three
forms:

- a special scheme other than `file` has an authority, however many
  slashes of either kind precede it;
- `file` has a host only after two slashes, and its own rules for drives;
- any other scheme has an authority after two slashes, a path after one,
  and is no base otherwise.
-/

namespace UploadHooks

namespace Url

/-! ## The forms of a URL -/

/-- The path behind an authority. That of a special URL is never empty. -/
def pathAfterAuthority (special : Bool) (text : List Char) : List String :=
  match text with
  | [] => if special then [""] else []
  | c :: rest =>
    if isSlash special c then readPath [] (pathPieces special rest)
    else readPath [] (pathPieces special text)

/-- The text behind the slashes that introduce an authority. -/
def readWithAuthority (scheme : String) (text : List Char) : Except Fault Url := do
  let special := isSpecialScheme scheme
  let (front, rest) := text.span (!isAuthorityEnd special ·)
  if lacksHost front rest then throw .emptyHost
  let (authority, left) ← readAuthority scheme front
  let (pathText, rest) := spanPath (left ++ rest)
  let (query, fragment) := readQuery special rest
  let names := pathAfterAuthority special pathText
  return ⟨scheme, .authority authority, .segments names, query, fragment⟩

/-- What a path without an authority needs in front of it. -/
def guardOf : List String → Front
  | "" :: _ :: _ => .guarded
  | _ => .plain

/-- A URL of a scheme that is not special. -/
def readOther (scheme : String) : List Char → Except Fault Url
  | '/' :: '/' :: text => readWithAuthority scheme text
  | '/' :: text =>
    let (pathText, rest) := spanPath text
    let (query, fragment) := readQuery false rest
    let names := readPath [] (pathPieces false pathText)
    .ok ⟨scheme, guardOf names, .segments names, query, fragment⟩
  | text =>
    let (pathText, rest) := spanPath text
    let (query, fragment) := readQuery false rest
    .ok ⟨scheme, .plain, .bare (String.ofList (Percent.encode Percent.control pathText)),
      query, fragment⟩

/-! ## Scheme -/

def isSchemeChar (c : Char) : Bool := c.isAlphanum || c == '+' || c == '-' || c == '.'

/-- The scheme before its colon, lower-cased, and the text behind. -/
def readScheme (text : List Char) : Option (String × List Char) :=
  let (name, rest) := text.span fun c => isSchemeChar c || isBreak c
  match dropBreaks name, rest with
  | first :: more, ':' :: rest =>
    if first.isAlpha then some (String.ofList ((first :: more).map Char.toLower), rest) else none
  | _, _ => none

/-- Blanks and controls around the text go. -/
def trimOuter (text : List Char) : List Char :=
  let isOuter (c : Char) : Bool := c.toNat ≤ 0x20
  ((text.dropWhile isOuter).reverse.dropWhile isOuter).reverse

def parse (text : String) : Except Fault Url :=
  match readScheme (trimOuter text.toList) with
  | none => .error .noBase
  | some ("file", rest) => readFile rest
  | some (scheme, rest) =>
    let rest := dropBreaks rest
    if isSpecialScheme scheme then readWithAuthority scheme (rest.dropWhile (isSlash true))
    else readOther scheme rest

end Url

end UploadHooks
