import UploadHooks.Text.Composition
import UploadHooks.Text.Mark
import UploadHooks.Url.Domain.Direction
import UploadHooks.Url.Domain.Joining
import UploadHooks.Url.Domain.Mapping
import UploadHooks.Url.Punycode

/-!
# Domain names

A domain name is written in ASCII. Its characters are mapped first, and
the result is composed and split into labels at its dots. A label with
characters beyond ASCII is then written as `xn--` and its Punycode; one
that is written so already has to be the written form of a label that
mapping leaves as it is.

`Label` keeps a label together with its written form, because the rules
on writing directions compare all labels of a name as they are read.
Nothing is asked of the length of a name or of the place of its hyphens;
only what is encoded or decoded has a limit.
-/

namespace UploadHooks

namespace Url

namespace Domain

structure Label where
  text : List Char
  written : List Char
  deriving DecidableEq, Repr

/-! ## Characters -/

def isAscii (text : List Char) : Bool := text.all fun c => c.toNat < 0x80

/-- Characters that no name can hold: controls, the space, and the
delimiters of a URL. -/
def isForbidden (c : Char) : Bool :=
  c.toNat < 0x21 || c.toNat == 0x7F || "%#/:<>?@[\\]^|".toList.contains c

/-- The name with its characters mapped and composed. -/
def mappedName? (name : List Char) : Option (List Char) :=
  (name.mapM mapped?).map fun replacements => Text.composed replacements.flatten

/-! ## Labels -/

/-- Longer labels are neither encoded nor decoded. -/
def longestEncoded : Nat := 1000

def longestDecoded : Nat := 2000

/-- Whether a mapped label that is not all ASCII can be part of a name. -/
def isValidLabel (label : List Char) : Bool :=
  !label.any isForbidden && !label.head?.any Text.isMark && hasWellPlacedJoiners label

def encodedMark : List Char := "xn--".toList

/-- The label that a written form stands for, with `code` behind the
mark. -/
def decodeLabel? (code : List Char) : Option (List Char) :=
  if code.isEmpty ∨ code.getLast? = some '-' ∨ longestDecoded < code.length then none
  else
    (Punycode.decode? code).filter fun label =>
      label.all isUnmapped && Text.composed label == label && isValidLabel label

/-- A mapped label and its written form. -/
def label? (label : List Char) : Option Label :=
  if encodedMark.isPrefixOf label then
    if isAscii label ∧ ¬ label.any isForbidden then
      (decodeLabel? (label.drop encodedMark.length)).map fun text => ⟨text, label⟩
    else none
  else if isAscii label then
    if label.any isForbidden then none else some ⟨label, label⟩
  else if isValidLabel label ∧ label.length ≤ longestEncoded then
    some ⟨label, encodedMark ++ Punycode.encode label⟩
  else none

/-! ## Names -/

/-- Whether the labels of a name can be told apart when it is shown. -/
def areDirected (labels : List Label) : Bool :=
  !labels.any (·.text.any isRightToLeft) || labels.all (isDirected ·.text)

/-- The labels of a name. -/
def labels? (name : List Char) : Option (List Label) :=
  ((mappedName? name).bind fun mapped => (mapped.splitOn '.').mapM label?).filter areDirected

/-- The name in ASCII; nothing if it is not a domain name. -/
def toAscii? (name : List Char) : Option (List Char) :=
  (labels? name).map fun labels => ['.'].intercalate (labels.map (·.written))

end Domain

end Url

end UploadHooks
