/-!
# Blank characters and trimming

Version texts, environment settings and flags are read with the white
space around them dropped. White space here is the Unicode property
`White_Space`, so a no-break space or an ideographic space counts while
a zero-width space does not.

`trim` works on character lists, where its parts are `dropWhile` from
both ends; `trimText` is the same on strings.
-/

namespace UploadHooks

namespace Text

/-- The code points with the property `White_Space`. -/
def isBlank (c : Char) : Bool :=
  let n := c.toNat
  (0x09 ≤ n && n ≤ 0x0D) || n == 0x20 || n == 0x85 || n == 0xA0 || n == 0x1680 ||
    (0x2000 ≤ n && n ≤ 0x200A) || n == 0x2028 || n == 0x2029 || n == 0x202F ||
    n == 0x205F || n == 0x3000

def trimLeft (s : List Char) : List Char := s.dropWhile isBlank

def trimRight (s : List Char) : List Char := (s.reverse.dropWhile isBlank).reverse

/-- Blank characters at both ends are dropped; those inside stay. -/
def trim (s : List Char) : List Char := trimRight (trimLeft s)

def trimText (s : String) : String := String.ofList (trim s.toList)

@[simp] theorem toList_trimText (s : String) : (trimText s).toList = trim s.toList := by
  simp [trimText]

/-- Nothing but blank characters, the empty text included. -/
def isAllBlank (s : String) : Bool := s.toList.all isBlank

/-! ## Letter case, ASCII only -/

def lowerAscii (s : String) : String := String.ofList (s.toList.map Char.toLower)

end Text

end UploadHooks
