import Mathlib.Data.List.Forall2
import UploadHooks.Json.Reader
import UploadHooks.Json.Writer
import UploadHooks.Proofs.Entries

/-!
# What is written reads back

A written text `Denotes` a value if the reader takes exactly that text off
the front of its input, whatever follows, and finds the value in it. The
predicate is closed under the writers: a string denotes itself, and an
object the entries that its members denote. So the meaning of a record's
text is put together in the order in which its writer is. The bound of the
reader does not show up outside this module, because it is never reached:
two calls consume at least one character. Nesting is counted by `levels`.

An object is read the same way whoever has written it. `Spelling` is a
member with the blanks that may stand in it and any text of its name, and
the members that the writer leaves are those without blanks.

Written text has no control characters, so a whole object fits on one line
(`noControl_objectChars`).
-/

namespace UploadHooks

namespace Json

open Utf8

/-- Text as the reader gets it. -/
def piecesOf (text : List Char) : List Piece := text.map .char

@[simp] theorem piecesOf_nil : piecesOf [] = [] := rfl

@[simp] theorem piecesOf_cons (c : Char) (text : List Char) :
    piecesOf (c :: text) = .char c :: piecesOf text := rfl

@[simp] theorem piecesOf_append (a b : List Char) :
    piecesOf (a ++ b) = piecesOf a ++ piecesOf b := List.map_append

@[simp] theorem length_piecesOf (text : List Char) : (piecesOf text).length = text.length :=
  List.length_map ..

/-! ## Strings -/

theorem hexDigit?_hexChar : ∀ n, n < 16 → hexDigit? (.char (hexChar n)) = some n := by decide

theorem readHex_numberEscape {c : Char} (h : c.toNat < 0x20) (rest : List Piece) :
    readHex (piecesOf ['0', '0', hexChar (c.toNat / 16), hexChar (c.toNat % 16)] ++ rest) =
      .ok (c.toNat, rest) := by
  have hzero : hexDigit? (.char '0') = some 0 := rfl
  have hhigh := hexDigit?_hexChar (c.toNat / 16) (by omega)
  have hlow := hexDigit?_hexChar (c.toNat % 16) (by omega)
  have hnumber : ((0 * 16 + 0) * 16 + c.toNat / 16) * 16 + c.toNat % 16 = c.toNat := by omega
  simp only [piecesOf_cons, piecesOf_nil, List.cons_append, List.nil_append, readHex, hexDigits?,
    hzero, hhigh, hlow, hnumber]

section Content

variable (bound : Nat) (content : List Piece) {rest : List Piece} {c : Char}

theorem readContent_escape {escape : List Piece} (h : readEscape escape = .ok (c, rest)) :
    readContent (bound + 1) content (.char '\\' :: escape) =
      readContent bound (.char c :: content) rest := by
  simp only [readContent, h]

theorem readContent_plain (hquote : c ≠ '"') (hslash : c ≠ '\\') (hc : ¬ c.toNat < 0x20) :
    readContent (bound + 1) content (.char c :: rest) =
      readContent bound (.char c :: content) rest := by
  rw [readContent, if_neg hc]
  · exact hquote
  · exact hslash

theorem readContent_numberEscape (h : c.toNat < 0x20) :
    readContent (bound + 1) content (piecesOf (numberEscape c) ++ rest) =
      readContent bound (.char c :: content) rest := by
  have hlowHalf : ¬(0xDC00 ≤ c.toNat ∧ c.toNat ≤ 0xDFFF) := by omega
  have hhighHalf : ¬(0xD800 ≤ c.toNat ∧ c.toNat ≤ 0xDBFF) := by omega
  have hread := readHex_numberEscape h rest
  refine readContent_escape bound content ?_
  change readCodePoint (piecesOf _ ++ rest) = _
  rw [readCodePoint, hread]
  simp only [hlowHalf, hhighHalf, if_false, Char.ofNat_toNat]

end Content

/-- A character as it is written is one step of the reader. -/
theorem readContent_escapedChar (c : Char) (bound : Nat) (content rest : List Piece) :
    readContent (bound + 1) content (piecesOf (escapedChar c) ++ rest) =
      readContent bound (.char c :: content) rest := by
  unfold escapedChar
  split
  case h_8 hquote hslash _ _ _ _ _ =>
    split
    · next hc => exact readContent_numberEscape bound content hc
    · next hc => exact readContent_plain bound content hquote hslash hc
  all_goals rfl

theorem readContent_escaped (text : List Char) {bound : Nat} (hbound : text.length < bound)
    (content rest : List Piece) :
    readContent bound content (piecesOf (text.flatMap escapedChar ++ ['"']) ++ rest) =
      .ok ((piecesOf text).reverse ++ content, rest) := by
  induction text generalizing bound content with
  | nil =>
      obtain ⟨bound, rfl⟩ := Nat.exists_eq_add_of_lt hbound
      rfl
  | cons c text ih =>
      obtain ⟨bound, rfl⟩ : ∃ b, bound = b + 1 := ⟨bound - 1, by simp at hbound; omega⟩
      have hlt : text.length < bound := by simpa using hbound
      rw [List.flatMap_cons, List.append_assoc, piecesOf_append, List.append_assoc,
        readContent_escapedChar, ih hlt]
      simp

theorem length_le_length_escaped (text : List Char) :
    text.length ≤ (text.flatMap escapedChar).length := by
  induction text with
  | nil => exact Nat.le_refl 0
  | cons c text ih =>
      have hpos : 0 < (escapedChar c).length := by
        unfold escapedChar
        split
        case h_8 => split <;> simp [numberEscape]
        all_goals decide
      rw [List.flatMap_cons, List.length_append, List.length_cons]
      omega

theorem all_isChar_piecesOf (text : List Char) : (piecesOf text).all Piece.isChar = true := by
  simp [piecesOf, Piece.isChar]

theorem filterMap_char?_piecesOf (text : List Char) :
    (piecesOf text).filterMap Piece.char? = text := by
  simp [piecesOf, List.filterMap_map, Function.comp_def, Piece.char?]

/-- The text is a string with that content, after its opening quote. -/
def EndsString (text : List Char) (s : String) : Prop :=
  ∀ rest, readString (piecesOf text ++ rest) = .ok (s, rest)

/-- A string as it is written. -/
theorem endsString_escaped (s : String) :
    EndsString (s.toList.flatMap escapedChar ++ ['"']) s := by
  intro rest
  have hlength := length_le_length_escaped s.toList
  rw [readString, readContent_escaped]
  · simp [all_isChar_piecesOf, filterMap_char?_piecesOf]
  · simp only [List.length_append, length_piecesOf, List.length_cons, List.length_nil]
    omega

/-! ## What a text denotes -/

/-- The reader takes the text off the front and finds the value in it; the
value has that many levels of lists and objects. -/
def Denotes (text : List Char) (v : Value) (levels : Nat) : Prop :=
  ∀ bound depth rest, 2 * text.length ≤ bound → levels < depth →
    readValue bound depth (piecesOf text ++ rest) = .ok (v, rest)

/-- What may follow a value: a blank, a comma or a closing bracket, or
nothing. -/
def Ends (rest : List Piece) : Prop :=
  ∀ p ∈ rest.head?, isBlankPiece p = true ∨ p ∈ [.char ',', .char ']', .char '\x7d']

/-- As `Denotes`, but the text may need what follows to show where it ends,
as a number does. -/
def Stands (text : List Char) (v : Value) (levels : Nat) : Prop :=
  ∀ bound depth rest, 2 * text.length ≤ bound → levels < depth → Ends rest →
    readValue bound depth (piecesOf text ++ rest) = .ok (v, rest)

theorem Denotes.stands {text : List Char} {v : Value} {levels : Nat} (h : Denotes text v levels) :
    Stands text v levels :=
  fun bound depth rest hbound hdepth _ => h bound depth rest hbound hdepth

theorem Stands.length_pos {text : List Char} {v : Value} {levels : Nat}
    (h : Stands text v levels) : 0 < text.length := by
  refine List.length_pos_iff.mpr ?_
  rintro rfl
  have hread := h 0 (levels + 1) [] (Nat.le_refl 0) (Nat.lt_succ_self levels) (by simp [Ends])
  rw [readValue] at hread
  cases hread

theorem Stands.mono {text : List Char} {v : Value} {levels levels' : Nat}
    (h : Stands text v levels) (hle : levels ≤ levels') : Stands text v levels' :=
  fun bound depth rest hbound hdepth =>
    h bound depth rest hbound (Nat.lt_of_le_of_lt hle hdepth)

/-! ## Blanks -/

/-- Blanks between the parts of a text. -/
def AllBlank (blanks : List Char) : Prop := ∀ c ∈ blanks, isBlankPiece (.char c) = true

theorem allBlank_nil : AllBlank [] := List.forall_mem_nil _

theorem skipBlank_of_not_blank {p : Piece} {s : List Piece} (h : isBlankPiece p = false) :
    skipBlank (p :: s) = p :: s := by
  simp [skipBlank, h]

theorem skipBlank_blanks {blanks : List Char} (h : AllBlank blanks) (s : List Piece) :
    skipBlank (piecesOf blanks ++ s) = skipBlank s := by
  rw [skipBlank, List.dropWhile_append_of_pos]
  · rfl
  · simpa [piecesOf, AllBlank] using h

theorem skipBlank_skipBlank (s : List Piece) : skipBlank (skipBlank s) = skipBlank s := by
  induction s with
  | nil => rfl
  | cons p s ih =>
      cases hp : isBlankPiece p with
      | true => simpa [skipBlank, hp] using ih
      | false => simp [skipBlank, hp]

theorem readValue_skipBlank (bound depth : Nat) (s : List Piece) :
    readValue (bound + 1) depth (skipBlank s) = readValue (bound + 1) depth s := by
  rw [readValue, readValue, skipBlank_skipBlank]

theorem readMembers_skipBlank (bound depth : Nat) (first : Bool) (members : List (String × Value))
    (s : List Piece) : readMembers (bound + 1) depth first members (skipBlank s) =
      readMembers (bound + 1) depth first members s := by
  rw [readMembers, readMembers, skipBlank_skipBlank]

theorem readValue_blanks {blanks : List Char} (h : AllBlank blanks) (bound depth : Nat)
    (s : List Piece) :
    readValue (bound + 1) depth (piecesOf blanks ++ s) = readValue (bound + 1) depth s := by
  rw [← readValue_skipBlank, skipBlank_blanks h, readValue_skipBlank]

/-- Blanks in front of a value do not count. -/
theorem Stands.behindBlanks {text blanks : List Char} {v : Value} {levels : Nat}
    (h : Stands text v levels) (hblanks : AllBlank blanks) : Stands (blanks ++ text) v levels := by
  intro bound depth rest hbound hdepth hrest
  have hpos := h.length_pos
  rw [List.length_append] at hbound
  obtain ⟨bound, rfl⟩ : ∃ b, bound = b + 1 := ⟨bound - 1, by omega⟩
  rw [piecesOf_append, List.append_assoc, readValue_blanks hblanks]
  exact h (bound + 1) depth rest (by omega) hdepth hrest

theorem readMembers_blanks {blanks : List Char} (h : AllBlank blanks) (bound depth : Nat)
    (first : Bool) (members : List (String × Value)) (s : List Piece) :
    readMembers (bound + 1) depth first members (piecesOf blanks ++ s) =
      readMembers (bound + 1) depth first members s := by
  rw [← readMembers_skipBlank, skipBlank_blanks h, readMembers_skipBlank]

theorem Ends.blanks {blanks : List Char} (h : AllBlank blanks) {rest : List Piece}
    (hrest : Ends rest) : Ends (piecesOf blanks ++ rest) := by
  cases blanks with
  | nil => exact hrest
  | cons c blanks =>
      intro p hp
      obtain rfl := Option.some.inj hp
      exact .inl (h c (List.mem_cons_self ..))

theorem ends_cons {p : Piece} (h : p ∈ [.char ',', .char ']', .char '\x7d']) (rest : List Piece) :
    Ends (p :: rest) := by
  intro q hq
  obtain rfl := Option.some.inj hq
  exact .inr h

theorem EndsString.denotes {text : List Char} {s : String} (h : EndsString text s) :
    Denotes ('"' :: text) (.string s) 0 := by
  intro bound depth rest hbound _
  rw [List.length_cons] at hbound
  obtain ⟨bound, rfl⟩ : ∃ b, bound = b + 1 := ⟨bound - 1, by omega⟩
  rw [piecesOf_cons, List.cons_append, readValue, skipBlank_of_not_blank rfl]
  simp only [h rest, Except.map]

theorem Denotes.string (s : String) : Denotes (stringChars s) (.string s) 0 :=
  (endsString_escaped s).denotes

/-! ## Objects -/

/-- A member of an object as it may be written. Blanks stand before its
name, before and after the colon, and behind its value; the name is without
its opening quote, which the reader takes on its own. -/
structure Spelling where
  before : List Char
  name : List Char
  gap : List Char
  lead : List Char
  text : List Char
  after : List Char

namespace Spelling

/-- What follows the opening quote. -/
def tailChars (w : Spelling) : List Char :=
  w.name ++ (w.gap ++ ':' :: (w.lead ++ (w.text ++ w.after)))

def chars (w : Spelling) : List Char := w.before ++ '"' :: w.tailChars

/-- The spelling is one of a member with that name, whatever its value. -/
structure Names (w : Spelling) (name : String) : Prop where
  before : AllBlank w.before
  name : EndsString w.name name
  gap : AllBlank w.gap
  lead : AllBlank w.lead
  after : AllBlank w.after

/-- The spelling is one of that name and value. -/
structure Spells (levels : Nat) (w : Spelling) (member : String × Value) : Prop where
  names : w.Names member.1
  value : Stands w.text member.2 levels

theorem length_text_le (w : Spelling) : w.text.length + 2 ≤ w.chars.length := by
  simp only [chars, tailChars, List.length_append, List.length_cons]
  omega

end Spelling

/-- The members behind another one, each with its comma. -/
def laterChars (members : List Spelling) : List Char :=
  members.flatMap fun w => ',' :: w.chars

theorem laterChars_cons (w : Spelling) (later : List Spelling) :
    laterChars (w :: later) = ',' :: (w.chars ++ laterChars later) := rfl

/-- Behind a value in an object comes a comma or the closing brace. -/
theorem ends_laterChars (later : List Spelling) (rest : List Piece) :
    Ends (piecesOf (laterChars later ++ ['\x7d']) ++ rest) := by
  cases later with
  | nil => exact ends_cons (by decide) _
  | cons w later => exact ends_cons (by decide) _

theorem separated_cons (x : List Char) (rest : List (List Char)) :
    separated (x :: rest) = x ++ rest.flatMap (',' :: ·) := by
  induction rest generalizing x with
  | nil => simp [separated]
  | cons y rest ih => simp [separated, ih]

/-- All members of an object, and its closing brace. -/
def membersChars : List Spelling → List Char
  | [] => ['\x7d']
  | w :: later => w.chars ++ (laterChars later ++ ['\x7d'])

theorem laterChars_congr {later later' : List Spelling}
    (h : later.map Spelling.chars = later'.map Spelling.chars) :
    laterChars later = laterChars later' := by
  have hcomma := congrArg (List.flatMap (',' :: ·)) h
  rwa [List.flatMap_map, List.flatMap_map] at hcomma

/-- Where the blanks of a member are cut does not matter. -/
theorem membersChars_congr {members members' : List Spelling}
    (h : members.map Spelling.chars = members'.map Spelling.chars) :
    membersChars members = membersChars members' := by
  cases members with
  | nil =>
      obtain rfl := List.map_eq_nil_iff.mp h.symm
      rfl
  | cons w later =>
      cases members' with
      | nil => cases h
      | cons w' later' =>
          obtain ⟨hw, hlater⟩ := List.cons.inj h
          rw [membersChars, membersChars, hw, laterChars_congr hlater]

section Reading

variable {levels depth : Nat} {w : Spelling} {p : String × Value}

/-- A member, after the opening quote of its name. -/
theorem readMember_tailChars (h : w.Spells levels p) (hdepth : levels < depth) (bound : Nat)
    (hbound : 2 * w.text.length ≤ bound + 1) (members : List (String × Value))
    {rest : List Piece} (hrest : Ends rest) :
    readMember (bound + 2) depth members (piecesOf w.tailChars ++ rest) =
      readMembers (bound + 1) depth false (Entries.insert p.1 p.2 members) rest := by
  have hname := h.names.name
    (piecesOf (w.gap ++ ':' :: (w.lead ++ (w.text ++ w.after))) ++ rest)
  have hcolon : skipBlank (piecesOf (w.gap ++ ':' :: (w.lead ++ (w.text ++ w.after))) ++ rest) =
      .char ':' :: (piecesOf w.lead ++ (piecesOf w.text ++ (piecesOf w.after ++ rest))) := by
    rw [piecesOf_append, List.append_assoc, skipBlank_blanks h.names.gap, piecesOf_cons,
      List.cons_append, skipBlank_of_not_blank rfl, piecesOf_append, piecesOf_append,
      List.append_assoc, List.append_assoc]
  have hvalue := h.value (bound + 1) depth (piecesOf w.after ++ rest) hbound hdepth
    (hrest.blanks h.names.after)
  rw [Spelling.tailChars, piecesOf_append, List.append_assoc, readMember, hname]
  simp only [hcolon, if_true, readValue_blanks h.names.lead, hvalue,
    readMembers_blanks h.names.after]

theorem skipBlank_chars (h : w.Spells levels p) (rest : List Piece) :
    skipBlank (piecesOf w.chars ++ rest) = .char '"' :: (piecesOf w.tailChars ++ rest) := by
  rw [Spelling.chars, piecesOf_append, List.append_assoc, skipBlank_blanks h.names.before]
  exact skipBlank_of_not_blank rfl

/-- The members behind another one, and the closing brace. -/
theorem readMembers_laterChars {later : List Spelling} {entries : List (String × Value)}
    (h : List.Forall₂ (Spelling.Spells levels) later entries) (hdepth : levels < depth)
    (members : List (String × Value)) (rest : List Piece) {bound : Nat}
    (hbound : 2 * (laterChars later).length < bound) :
    readMembers bound depth false members (piecesOf (laterChars later ++ ['\x7d']) ++ rest) =
      .ok (entries.foldl (fun m p => Entries.insert p.1 p.2 m) members, rest) := by
  induction h generalizing members bound with
  | nil =>
      obtain ⟨bound, rfl⟩ : ∃ b, bound = b + 1 := ⟨bound - 1, by omega⟩
      rw [readMembers]
      rfl
  | @cons w p later entries hw hlater ih =>
      rw [laterChars_cons, List.length_cons, List.length_append] at hbound
      have htext := w.length_text_le
      have hpos := hw.value.length_pos
      obtain ⟨bound, rfl⟩ : ∃ b, bound = b + 3 := ⟨bound - 3, by omega⟩
      have hcomma : skipBlank (piecesOf (laterChars (w :: later) ++ ['\x7d']) ++ rest) =
          .char ',' :: (piecesOf w.chars ++ (piecesOf (laterChars later ++ ['\x7d']) ++ rest)) := by
        rw [laterChars_cons, List.cons_append, piecesOf_cons, List.append_assoc, piecesOf_append,
          List.cons_append, List.append_assoc]
        exact skipBlank_of_not_blank rfl
      have hclose : Piece.char ',' ≠ .char '\x7d' := by decide
      rw [readMembers, hcomma]
      simp only [hclose, if_false, Bool.false_eq_true, if_true, skipBlank_chars hw]
      rw [readMember_tailChars hw hdepth bound (by omega) members (ends_laterChars later rest),
        ih _ (by omega)]
      rfl

theorem readMembers_membersChars {members : List Spelling} {entries : List (String × Value)}
    (h : List.Forall₂ (Spelling.Spells levels) members entries) (hdepth : levels < depth)
    (rest : List Piece) (bound : Nat) (hbound : 2 * (membersChars members).length ≤ bound + 1) :
    readMembers bound depth true [] (piecesOf (membersChars members) ++ rest) =
      .ok (Entries.ofPairs entries, rest) := by
  cases h with
  | nil =>
      have hone : 2 ≤ bound + 1 := hbound
      obtain ⟨bound, rfl⟩ : ∃ b, bound = b + 1 := ⟨bound - 1, by omega⟩
      rw [readMembers]
      rfl
  | @cons w p later entries hw hlater =>
      simp only [membersChars, List.length_append, List.length_cons, List.length_nil] at hbound
      have htext := w.length_text_le
      have hpos := hw.value.length_pos
      obtain ⟨bound, rfl⟩ : ∃ b, bound = b + 3 := ⟨bound - 3, by omega⟩
      have hclose : Piece.char '"' ≠ .char '\x7d' := by decide
      rw [membersChars, piecesOf_append, List.append_assoc, readMembers, skipBlank_chars hw]
      simp only [hclose, if_false, if_true]
      rw [readMember_tailChars hw hdepth bound (by omega) [] (ends_laterChars later rest),
        readMembers_laterChars hlater hdepth _ _ (by omega)]
      rfl

end Reading

/-- An object, however it is written. -/
def objectText (members : List Spelling) : List Char := '\x7b' :: membersChars members

/-- An object denotes the entries of its members: of several with one name
the last one counts. -/
theorem Denotes.objectText {members : List Spelling} {entries : List (String × Value)}
    {levels : Nat} (h : List.Forall₂ (Spelling.Spells levels) members entries) :
    Denotes (objectText members) (.object (Entries.ofPairs entries)) (levels + 1) := by
  intro bound depth rest hbound hdepth
  rw [Json.objectText, List.length_cons] at hbound
  obtain ⟨bound, rfl⟩ : ∃ b, bound = b + 1 := ⟨bound - 1, by omega⟩
  have hlevels : levels < depth - 1 := by omega
  have hread := readMembers_membersChars h hlevels rest bound (by omega)
  have hdeep : ¬ depth ≤ 1 := by omega
  rw [Json.objectText, piecesOf_cons, List.cons_append, readValue, skipBlank_of_not_blank rfl]
  simp only [hdeep, if_false, hread]
  rfl

/-! ## Objects from the writer -/

/-- A member of an object: its name, its value, and how that is written. -/
structure Member where
  name : String
  text : List Char
  value : Value

namespace Member

/-- The member as the writer of objects takes it. -/
def written (w : Member) : String × List Char := (w.name, w.text)

/-- The member as it stands in the object. -/
def entry (w : Member) : String × Value := (w.name, w.value)

/-- The writer leaves no blanks. -/
def spelling (w : Member) : Spelling :=
  ⟨[], w.name.toList.flatMap escapedChar ++ ['"'], [], [], w.text, []⟩

theorem memberChars_written (w : Member) : memberChars w.written = w.spelling.chars := by
  simp [memberChars, stringChars, written, spelling, Spelling.chars, Spelling.tailChars]

theorem spells_spelling {w : Member} {levels : Nat} (h : Denotes w.text w.value levels) :
    w.spelling.Spells levels w.entry :=
  ⟨⟨allBlank_nil, endsString_escaped w.name, allBlank_nil, allBlank_nil, allBlank_nil⟩, h.stands⟩

end Member

theorem objectChars_written (members : List Member) :
    objectChars (members.map Member.written) = objectText (members.map Member.spelling) := by
  cases members with
  | nil => rfl
  | cons w later =>
      simp [objectChars, separated_cons, laterChars, membersChars, objectText, List.flatMap_map,
        Member.memberChars_written]

theorem Denotes.object {members : List Member} {levels : Nat}
    (h : ∀ w ∈ members, Denotes w.text w.value levels) :
    Denotes (objectChars (members.map Member.written))
      (.object (Entries.ofPairs (members.map Member.entry))) (levels + 1) := by
  rw [objectChars_written]
  refine .objectText ?_
  rw [List.forall₂_map_left_iff, List.forall₂_map_right_iff, List.forall₂_same]
  exact fun w hw => Member.spells_spelling (h w hw)

/-! ## No control characters -/

/-- No character of the text is a control, a line feed in particular. -/
def NoControl (text : List Char) : Prop := ∀ c ∈ text, 0x20 ≤ c.toNat

theorem noControl_append {a b : List Char} (ha : NoControl a) (hb : NoControl b) :
    NoControl (a ++ b) :=
  List.forall_mem_append.mpr ⟨ha, hb⟩

theorem le_toNat_hexChar : ∀ n, n < 16 → 0x20 ≤ (hexChar n).toNat := by decide

theorem noControl_escapedChar (c : Char) : NoControl (escapedChar c) := by
  unfold escapedChar
  split
  case h_8 =>
    split
    · next hc =>
      have hhigh := le_toNat_hexChar (c.toNat / 16) (by omega)
      have hlow := le_toNat_hexChar (c.toNat % 16) (by omega)
      simp [NoControl, numberEscape, hhigh, hlow]
    · next hc => simpa [NoControl] using hc
  all_goals simp [NoControl]

theorem noControl_stringChars (s : String) : NoControl (stringChars s) := by
  have hquote : NoControl ['"'] := by simp [NoControl]
  refine noControl_append (noControl_append hquote fun c hc => ?_) hquote
  obtain ⟨d, -, hd⟩ := List.mem_flatMap.mp hc
  exact noControl_escapedChar d c hd

theorem noControl_separated {parts : List (List Char)} (h : ∀ x ∈ parts, NoControl x) :
    NoControl (separated parts) := by
  cases parts with
  | nil => simp [separated, NoControl]
  | cons x rest =>
      rw [separated_cons]
      refine noControl_append (h x (List.mem_cons_self ..)) fun c hc => ?_
      obtain ⟨y, hy, hmem⟩ := List.mem_flatMap.mp hc
      rcases List.mem_cons.mp hmem with rfl | hmem
      · decide
      · exact h y (List.mem_cons_of_mem _ hy) c hmem

/-- An object is written on one line if its values are. -/
theorem noControl_objectChars {members : List (String × List Char)}
    (h : ∀ p ∈ members, NoControl p.2) : NoControl (objectChars members) := by
  refine noControl_append (noControl_append (by simp [NoControl])
    (noControl_separated fun x hx => ?_)) (by simp [NoControl])
  obtain ⟨p, hp, rfl⟩ := List.mem_map.mp hx
  exact noControl_append (noControl_append (noControl_stringChars p.1)
    (by simp [NoControl])) (h p hp)

/-! ## Whole texts -/

theorem pieces_ofList (text : List Char) : pieces (String.ofList text) = piecesOf text := by
  simp [pieces, piecesOf]

/-- Around a whole text there may be blanks. -/
theorem Denotes.ofText_between {opening text closing : List Char} {v : Value} {levels : Nat}
    (h : Denotes text v levels) (hlevels : levels < depthLimit) (hopening : AllBlank opening)
    (hclosing : AllBlank closing) :
    Value.ofText (String.ofList (opening ++ (text ++ closing))) = .ok v := by
  have hread : readValue (2 * (opening ++ (text ++ closing)).length + 2) depthLimit
      (piecesOf (opening ++ (text ++ closing))) = .ok (v, piecesOf closing) := by
    rw [piecesOf_append, readValue_blanks hopening, piecesOf_append]
    refine h _ depthLimit (piecesOf closing) ?_ hlevels
    simp only [List.length_append]
    omega
  have hend : skipBlank (piecesOf closing) = [] := by
    have hskip := skipBlank_blanks hclosing []
    rwa [List.append_nil] at hskip
  rw [Value.ofText, Value.ofPieces, readPieces, pieces_ofList, length_piecesOf, hread]
  simp only [hend]
  rfl

theorem Denotes.ofText {text : List Char} {v : Value} {levels : Nat} (h : Denotes text v levels)
    (hlevels : levels < depthLimit) : Value.ofText (String.ofList text) = .ok v := by
  simpa using h.ofText_between hlevels allBlank_nil allBlank_nil

/-! ## Objects of strings -/

/-- The text of an object that lists pairs as string members, in their
order. -/
def pairsText (pairs : List (String × String)) : String :=
  String.ofList (objectChars (Entries.mapValues stringChars pairs))

/-- A listed pair as a member. -/
def Member.ofPair (p : String × String) : Member := ⟨p.1, stringChars p.2, .string p.2⟩

/-- Listed pairs are the object of their last values. -/
theorem Denotes.pairs (pairs : List (String × String)) :
    Denotes (objectChars (Entries.mapValues stringChars pairs))
      (.object (Entries.mapValues .string (Entries.ofPairs pairs))) 1 := by
  have hmembers : ∀ w ∈ pairs.map Member.ofPair, Denotes w.text w.value 0 := by
    intro w hw
    obtain ⟨p, -, rfl⟩ := List.mem_map.mp hw
    exact .string p.2
  have hdenotes := Denotes.object hmembers
  rw [List.map_map, List.map_map] at hdenotes
  rw [← Entries.ofPairs_mapValues]
  exact hdenotes

theorem ofText_pairsText (pairs : List (String × String)) :
    Value.ofText (pairsText pairs) =
      .ok (.object (Entries.mapValues .string (Entries.ofPairs pairs))) :=
  (Denotes.pairs pairs).ofText (by decide)

/-- Objects of strings are written on one line. -/
theorem newline_not_mem_pairsText (pairs : List (String × String)) :
    '\n' ∉ (pairsText pairs).toList := by
  have hclean : NoControl (objectChars (Entries.mapValues stringChars pairs)) := by
    refine noControl_objectChars fun p hp => ?_
    obtain ⟨q, -, rfl⟩ := List.mem_map.mp hp
    exact noControl_stringChars q.2
  rw [pairsText, String.toList_ofList]
  intro hmem
  exact absurd (hclean '\n' hmem) (by decide)

end Json

end UploadHooks
