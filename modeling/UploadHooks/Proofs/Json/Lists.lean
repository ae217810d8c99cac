import UploadHooks.Proofs.Json.RoundTrip

/-!
# Words, blanks and lists

The other parts of which records are written: null and the two words for a
flag, blanks in front of a value, and lists of values. Each of them is a
closure property of `Denotes`, like those of strings and objects. Like an
object a list is read the same way whoever has written it: `ItemSpelling`
is an item with the blanks behind it.

A list differs from an object in that the reader looks at the first piece
of an item to see whether the list ends there. No value begins with the
closing bracket (`skipBlank_of_readValue`), so an item is never taken for
the end.
-/

namespace UploadHooks

namespace Json

open Utf8

theorem Denotes.mono {text : List Char} {v : Value} {levels levels' : Nat}
    (h : Denotes text v levels) (hle : levels ≤ levels') : Denotes text v levels' :=
  fun bound depth rest hbound hdepth => h bound depth rest hbound (Nat.lt_of_le_of_lt hle hdepth)

/-! ## Words -/

theorem readWord_append (word : List Char) (rest : List Piece) :
    readWord word (piecesOf word ++ rest) = .ok rest := by
  induction word with
  | nil => rfl
  | cons c word ih => rw [piecesOf_cons, List.cons_append, readWord, if_pos rfl, ih]

theorem Denotes.word (first : Char) (word : List Char) {v : Value}
    (h : ∀ bound depth s, readValue (bound + 1) depth (.char first :: s) =
      (readWord word s).map fun s => (v, s)) : Denotes (first :: word) v 0 := by
  intro bound depth rest hbound _
  obtain ⟨bound, rfl⟩ : ∃ b, bound = b + 1 := ⟨bound - 1, by simp at hbound; omega⟩
  rw [piecesOf_cons, List.cons_append, h, readWord_append]
  rfl

theorem Denotes.null : Denotes "null".toList .null 0 :=
  .word 'n' "ull".toList fun bound depth s => by
    rw [readValue, skipBlank_of_not_blank rfl]
    rfl

theorem Denotes.bool (b : Bool) : Denotes (boolChars b) (.bool b) 0 := by
  cases b with
  | true =>
      exact .word 't' "rue".toList fun bound depth s => by
        rw [readValue, skipBlank_of_not_blank rfl]
        rfl
  | false =>
      exact .word 'f' "alse".toList fun bound depth s => by
        rw [readValue, skipBlank_of_not_blank rfl]
        rfl

theorem Denotes.textOrNull (s : Option String) :
    Denotes (textOrNullChars s) (s.elim .null .string) 0 := by
  cases s with
  | none => exact .null
  | some s => exact .string s

/-! ## Blanks -/

/-- Blanks in front of a value do not count. -/
theorem Denotes.behindBlanks {text blanks : List Char} {v : Value} {levels : Nat}
    (h : Denotes text v levels) (hblanks : AllBlank blanks) :
    Denotes (blanks ++ text) v levels := by
  intro bound depth rest hbound hdepth
  have hpos := h.stands.length_pos
  rw [List.length_append] at hbound
  obtain ⟨bound, rfl⟩ : ∃ b, bound = b + 1 := ⟨bound - 1, by omega⟩
  rw [piecesOf_append, List.append_assoc, readValue_blanks hblanks]
  exact h (bound + 1) depth rest (by omega) hdepth

theorem readItems_skipBlank (bound depth : Nat) (first : Bool) (items : List Value)
    (s : List Piece) : readItems (bound + 1) depth first items (skipBlank s) =
      readItems (bound + 1) depth first items s := by
  rw [readItems, readItems, skipBlank_skipBlank]

theorem readItems_blanks {blanks : List Char} (h : AllBlank blanks) (bound depth : Nat)
    (first : Bool) (items : List Value) (s : List Piece) :
    readItems (bound + 1) depth first items (piecesOf blanks ++ s) =
      readItems (bound + 1) depth first items s := by
  rw [← readItems_skipBlank, skipBlank_blanks h, readItems_skipBlank]

/-- A value does not begin like the end of a list. -/
theorem skipBlank_of_readValue {bound depth : Nat} {s rest : List Piece} {v : Value}
    (h : readValue bound depth s = .ok (v, rest)) :
    ∃ p s', skipBlank s = p :: s' ∧ p ≠ .char ']' := by
  cases bound with
  | zero =>
      rw [readValue] at h
      cases h
  | succ bound =>
      rw [readValue] at h
      cases hs : skipBlank s with
      | nil =>
          rw [hs] at h
          cases h
      | cons p s' =>
          refine ⟨p, s', rfl, ?_⟩
          rintro rfl
          rw [hs] at h
          cases h

/-! ## Lists -/

/-- An item of a list as it may be written, with the blanks behind it. -/
structure ItemSpelling where
  text : List Char
  after : List Char

namespace ItemSpelling

def chars (w : ItemSpelling) : List Char := w.text ++ w.after

/-- The spelling is one of that value. -/
structure Spells (levels : Nat) (w : ItemSpelling) (v : Value) : Prop where
  value : Stands w.text v levels
  after : AllBlank w.after

theorem length_text_le (w : ItemSpelling) : w.text.length ≤ w.chars.length := by
  rw [chars, List.length_append]
  omega

end ItemSpelling

/-- The items behind another one, each with its comma. -/
def laterItems (items : List ItemSpelling) : List Char := items.flatMap fun w => ',' :: w.chars

theorem laterItems_cons (w : ItemSpelling) (later : List ItemSpelling) :
    laterItems (w :: later) = ',' :: (w.chars ++ laterItems later) := rfl

/-- Behind a value in a list comes a comma or the closing bracket. -/
theorem ends_laterItems (later : List ItemSpelling) (rest : List Piece) :
    Ends (piecesOf (laterItems later ++ [']']) ++ rest) := by
  cases later with
  | nil => exact ends_cons (by decide) _
  | cons w later => exact ends_cons (by decide) _

/-- All items of a list, and its closing bracket. -/
def itemsChars : List ItemSpelling → List Char
  | [] => [']']
  | w :: later => w.chars ++ (laterItems later ++ [']'])

/-- A list, however it is written. -/
def listText (items : List ItemSpelling) : List Char := '[' :: itemsChars items

section Reading

variable {levels depth : Nat} {w : ItemSpelling} {v : Value}

/-- The first item of a list. -/
theorem readItems_first (h : w.Spells levels v) (hdepth : levels < depth) (bound : Nat)
    (hbound : 2 * w.text.length ≤ bound) (items : List Value) {rest : List Piece}
    (hrest : Ends rest) :
    readItems (bound + 1) depth true items (piecesOf w.chars ++ rest) =
      readItems bound depth false (v :: items) rest := by
  have hread := h.value bound depth _ hbound hdepth (hrest.blanks h.after)
  obtain ⟨p, s, hs, hp⟩ := skipBlank_of_readValue hread
  have hpos := h.value.length_pos
  obtain ⟨bound, rfl⟩ : ∃ b, bound = b + 1 := ⟨bound - 1, by omega⟩
  rw [← readValue_skipBlank, hs] at hread
  rw [ItemSpelling.chars, piecesOf_append, List.append_assoc, readItems, hs]
  simp only [hp, if_false, if_true, hread, readItems_blanks h.after]

/-- An item behind another one. -/
theorem readItems_later (h : w.Spells levels v) (hdepth : levels < depth) (bound : Nat)
    (hbound : 2 * w.text.length ≤ bound) (items : List Value) {rest : List Piece}
    (hrest : Ends rest) :
    readItems (bound + 1) depth false items (.char ',' :: (piecesOf w.chars ++ rest)) =
      readItems bound depth false (v :: items) rest := by
  have hread := h.value bound depth _ hbound hdepth (hrest.blanks h.after)
  obtain ⟨p, s, hs, hp⟩ := skipBlank_of_readValue hread
  have hpos := h.value.length_pos
  obtain ⟨bound, rfl⟩ : ∃ b, bound = b + 1 := ⟨bound - 1, by omega⟩
  rw [← readValue_skipBlank, hs] at hread
  have hcomma : Piece.char ',' ≠ .char ']' := by decide
  rw [ItemSpelling.chars, piecesOf_append, List.append_assoc, readItems, skipBlank_of_not_blank rfl]
  simp only [hcomma, if_false, if_true, Bool.false_eq_true, hs, hp, hread,
    readItems_blanks h.after]

/-- The items behind another one, and the closing bracket. -/
theorem readItems_laterItems {later : List ItemSpelling} {values : List Value}
    (h : List.Forall₂ (ItemSpelling.Spells levels) later values) (hdepth : levels < depth)
    (items : List Value) (rest : List Piece) {bound : Nat}
    (hbound : 2 * (laterItems later).length < bound) :
    readItems bound depth false items (piecesOf (laterItems later ++ [']']) ++ rest) =
      .ok (values.reverse ++ items, rest) := by
  induction h generalizing items bound with
  | nil =>
      obtain ⟨bound, rfl⟩ : ∃ b, bound = b + 1 := ⟨bound - 1, by omega⟩
      rw [readItems]
      rfl
  | @cons w v later values hw hlater ih =>
      rw [laterItems_cons, List.length_cons, List.length_append] at hbound
      have htext := w.length_text_le
      obtain ⟨bound, rfl⟩ : ∃ b, bound = b + 1 := ⟨bound - 1, by omega⟩
      have hitem := readItems_later hw hdepth bound (by omega) items (ends_laterItems later rest)
      rw [ih _ (by omega)] at hitem
      rw [laterItems_cons]
      simpa using hitem

theorem readItems_itemsChars {items : List ItemSpelling} {values : List Value}
    (h : List.Forall₂ (ItemSpelling.Spells levels) items values) (hdepth : levels < depth)
    (rest : List Piece) (bound : Nat) (hbound : 2 * (itemsChars items).length ≤ bound + 1) :
    readItems bound depth true [] (piecesOf (itemsChars items) ++ rest) =
      .ok (values.reverse, rest) := by
  cases h with
  | nil =>
      have hone : 2 ≤ bound + 1 := hbound
      obtain ⟨bound, rfl⟩ : ∃ b, bound = b + 1 := ⟨bound - 1, by omega⟩
      rw [readItems]
      rfl
  | @cons w v later values hw hlater =>
      simp only [itemsChars, List.length_append, List.length_cons, List.length_nil] at hbound
      have htext := w.length_text_le
      have hpos := hw.value.length_pos
      obtain ⟨bound, rfl⟩ : ∃ b, bound = b + 1 := ⟨bound - 1, by omega⟩
      have hitem := readItems_first hw hdepth bound (by omega) [] (ends_laterItems later rest)
      rw [readItems_laterItems hlater hdepth _ _ (by omega)] at hitem
      simpa [itemsChars] using hitem

end Reading

/-- A list denotes the values of its items. -/
theorem Denotes.listText {items : List ItemSpelling} {values : List Value} {levels : Nat}
    (h : List.Forall₂ (ItemSpelling.Spells levels) items values) :
    Denotes (listText items) (.array values) (levels + 1) := by
  intro bound depth rest hbound hdepth
  rw [Json.listText, List.length_cons] at hbound
  obtain ⟨bound, rfl⟩ : ∃ b, bound = b + 1 := ⟨bound - 1, by omega⟩
  have hlevels : levels < depth - 1 := by omega
  have hread := readItems_itemsChars h hlevels rest bound (by omega)
  have hdeep : ¬ depth ≤ 1 := by omega
  rw [Json.listText, piecesOf_cons, List.cons_append, readValue, skipBlank_of_not_blank rfl]
  simp only [hdeep, if_false, hread]
  simp [Except.map]

/-- The writer leaves no blanks. -/
theorem listChars_written (texts : List (List Char)) :
    listChars texts = listText (texts.map fun text => ⟨text, []⟩) := by
  cases texts with
  | nil => rfl
  | cons text later =>
      simp [listChars, separated_cons, listText, laterItems, itemsChars, ItemSpelling.chars,
        List.flatMap_map]

/-- A list that is written item by item. -/
theorem Denotes.listOf {α : Type} {written : α → List Char} {value : α → Value} {levels : Nat}
    {items : List α} (h : ∀ a ∈ items, Denotes (written a) (value a) levels) :
    Denotes (listChars (items.map written)) (.array (items.map value)) (levels + 1) := by
  rw [listChars_written, List.map_map]
  refine .listText ?_
  rw [List.forall₂_map_left_iff, List.forall₂_map_right_iff, List.forall₂_same]
  exact fun a ha => ⟨(h a ha).stands, allBlank_nil⟩

end Json

end UploadHooks
