import UploadHooks.Proofs.Json.Lists
import UploadHooks.Proofs.Json.Rereading
import UploadHooks.Proofs.Results

/-!
# What has been read was spelled

Nothing is read that is not spelled: a value stands in the text that it was
read from, a list is made of items and an object of members with blanks
around them. The mutual recursion of the reader is followed by one
induction on its bound (`inverts`). The bound and the depth of a run are
those of that run only; the text that it took can be read with any bound of
twice its length, and at any depth from there on.

So every text that is read as an object lists members (`exists_lists`),
whatever blanks and escapes it is written with.
-/

namespace UploadHooks

namespace Json

open Utf8

/-! ## Texts -/

section Texts

variable {chars : List Char} {rest : List Piece}

theorem exists_of_piecesOf_eq_append {front back : List Piece}
    (h : piecesOf chars = front ++ back) :
    ∃ text after, chars = text ++ after ∧ front = piecesOf text ∧ back = piecesOf after := by
  obtain ⟨text, after, hsplit, hfront, hback⟩ := List.map_eq_append_iff.mp h
  exact ⟨text, after, hsplit, hfront.symm, hback.symm⟩

theorem Rereads.text {α : Type} {follows : List Piece → Prop} {read : List Piece → Reading α}
    {a : α} (hread : Rereads follows read) (h : read (piecesOf chars) = .ok (a, rest)) :
    ∃ text after, chars = text ++ after ∧ rest = piecesOf after ∧
      ∀ rest', follows rest' → read (piecesOf text ++ rest') = .ok (a, rest') := by
  obtain ⟨taken, hsplit, hagain⟩ := hread h
  obtain ⟨text, after, rfl, rfl, rfl⟩ := exists_of_piecesOf_eq_append hsplit
  exact ⟨text, after, rfl, rfl, hagain⟩

theorem exists_skipBlank (chars : List Char) :
    ∃ blanks after, chars = blanks ++ after ∧ AllBlank blanks ∧
      skipBlank (piecesOf chars) = piecesOf after := by
  obtain ⟨blanks, after, rfl, hblanks, hafter⟩ := exists_of_piecesOf_eq_append
    (List.takeWhile_append_dropWhile (p := isBlankPiece) (l := piecesOf chars)).symm
  refine ⟨blanks, after, rfl, fun c hc => ?_, hafter⟩
  have hmem : Piece.char c ∈ piecesOf blanks := List.mem_map_of_mem hc
  rw [← hblanks] at hmem
  exact List.mem_takeWhile_imp hmem

theorem readWord_eq_ok {word : List Char} {s : List Piece} (h : readWord word s = .ok rest) :
    s = piecesOf word ++ rest := by
  induction word generalizing s with
  | nil => exact Except.ok.inj h
  | cons c word ih =>
      cases s with
      | nil => cases h
      | cons p s =>
          rw [readWord] at h
          split at h
          · next hp => rw [hp, ih h, piecesOf_cons, List.cons_append]
          · cases h

end Texts

/-! ## Lists and objects that were read -/

/-- The items of a list, up to its closing bracket. -/
inductive ItemsText (levels : ℕ) : List Char → List Value → Prop
  | none {blanks : List Char} (hblanks : AllBlank blanks) : ItemsText levels (blanks ++ [']']) []
  | some {items : List ItemSpelling} {values : List Value}
      (hitems : List.Forall₂ (ItemSpelling.Spells levels) items values) :
      ItemsText levels (itemsChars items) values

/-- The members of an object, up to its closing brace. -/
inductive MembersText (levels : ℕ) : List Char → List (String × Value) → Prop
  | none {blanks : List Char} (hblanks : AllBlank blanks) :
      MembersText levels (blanks ++ ['\x7d']) []
  | some {members : List Spelling} {entries : List (String × Value)}
      (hmembers : List.Forall₂ (Spelling.Spells levels) members entries) :
      MembersText levels (membersChars members) entries

theorem Denotes.emptyList {blanks : List Char} (h : AllBlank blanks) :
    Denotes ('[' :: (blanks ++ [']'])) (.array []) 1 := by
  intro bound depth rest hbound hdepth
  rw [List.length_cons, List.length_append, List.length_singleton] at hbound
  obtain ⟨bound, rfl⟩ : ∃ b, bound = b + 2 := ⟨bound - 2, by omega⟩
  have hdeep : ¬ depth ≤ 1 := by omega
  rw [piecesOf_cons, List.cons_append, readValue, skipBlank_of_not_blank rfl, piecesOf_append,
    List.append_assoc]
  simp only [hdeep, if_false, readItems_blanks h]
  rw [readItems]
  rfl

theorem Denotes.emptyObject {blanks : List Char} (h : AllBlank blanks) :
    Denotes ('\x7b' :: (blanks ++ ['\x7d'])) (.object []) 1 := by
  intro bound depth rest hbound hdepth
  rw [List.length_cons, List.length_append, List.length_singleton] at hbound
  obtain ⟨bound, rfl⟩ : ∃ b, bound = b + 2 := ⟨bound - 2, by omega⟩
  have hdeep : ¬ depth ≤ 1 := by omega
  rw [piecesOf_cons, List.cons_append, readValue, skipBlank_of_not_blank rfl, piecesOf_append,
    List.append_assoc]
  simp only [hdeep, if_false, readMembers_blanks h]
  rw [readMembers]
  rfl

theorem ItemsText.denotes {levels : ℕ} {text : List Char} {values : List Value}
    (h : ItemsText levels text values) : Denotes ('[' :: text) (.array values) (levels + 1) := by
  cases h with
  | none hblanks => exact (Denotes.emptyList hblanks).mono (by omega)
  | some hitems => exact .listText hitems

theorem MembersText.denotes {levels : ℕ} {text : List Char} {entries : List (String × Value)}
    (h : MembersText levels text entries) :
    Denotes ('\x7b' :: text) (.object (Entries.ofPairs entries)) (levels + 1) := by
  cases h with
  | none hblanks => exact (Denotes.emptyObject hblanks).mono (by omega)
  | some hmembers => exact .objectText hmembers

/-! ## Values -/

/-- With that bound the reader takes nothing but spelled text off the front:
a value, a list and an object from their opening on, and what is left of
them behind an item or a member. -/
structure Inverts (bound : ℕ) : Prop where
  value : ∀ {depth : ℕ} {chars : List Char} {v : Value} {rest : List Piece},
    readValue bound depth (piecesOf chars) = .ok (v, rest) →
      ∃ text after, chars = text ++ after ∧ rest = piecesOf after ∧ Stands text v (depth - 1)
  list : ∀ {depth : ℕ} {chars : List Char} {items : List Value} {rest : List Piece},
    readItems bound depth true [] (piecesOf chars) = .ok (items, rest) →
      ∃ text values after, chars = text ++ after ∧ rest = piecesOf after ∧
        ItemsText (depth - 1) text values ∧ items = values.reverse
  items : ∀ {depth : ℕ} {done : List Value} {chars : List Char} {items : List Value}
    {rest : List Piece}, readItems bound depth false done (piecesOf chars) = .ok (items, rest) →
      ∃ gap later values after, chars = gap ++ (laterItems later ++ ']' :: after) ∧
        AllBlank gap ∧ rest = piecesOf after ∧
        List.Forall₂ (ItemSpelling.Spells (depth - 1)) later values ∧
        items = values.reverse ++ done
  object : ∀ {depth : ℕ} {chars : List Char} {members : List (String × Value)}
    {rest : List Piece}, readMembers bound depth true [] (piecesOf chars) = .ok (members, rest) →
      ∃ text entries after, chars = text ++ after ∧ rest = piecesOf after ∧
        MembersText (depth - 1) text entries ∧ members = Entries.ofPairs entries
  members : ∀ {depth : ℕ} {done : List (String × Value)} {chars : List Char}
    {members : List (String × Value)} {rest : List Piece},
    readMembers bound depth false done (piecesOf chars) = .ok (members, rest) →
      ∃ gap later entries after, chars = gap ++ (laterChars later ++ '\x7d' :: after) ∧
        AllBlank gap ∧ rest = piecesOf after ∧
        List.Forall₂ (Spelling.Spells (depth - 1)) later entries ∧
        members = entries.foldl (fun m p => Entries.insert p.1 p.2 m) done
  member : ∀ {depth : ℕ} {done : List (String × Value)} {chars : List Char}
    {members : List (String × Value)} {rest : List Piece},
    readMember bound depth done (piecesOf chars) = .ok (members, rest) →
      ∃ w p later entries after,
        chars = Spelling.tailChars w ++ (laterChars later ++ '\x7d' :: after) ∧
        rest = piecesOf after ∧
        List.Forall₂ (Spelling.Spells (depth - 1)) (w :: later) (p :: entries) ∧
        members = (p :: entries).foldl (fun m p => Entries.insert p.1 p.2 m) done

section Steps

variable {bound depth : ℕ} {chars : List Char} {rest : List Piece}

/-- A number without its sign is not empty, and begins with a digit. -/
theorem exists_unsigned {n : Number} (h : readUnsigned false (piecesOf chars) = .ok (n, rest)) :
    ∃ text after, chars = text ++ after ∧ rest = piecesOf after ∧ Stands text (.number n) 0 := by
  obtain ⟨text, after, rfl, rfl, hagain⟩ := (readUnsigned_rereads false).text h
  cases text with
  | nil => cases hagain [] (by simp [Ends])
  | cons c text =>
      refine ⟨_, _, rfl, rfl, stands_of_readUnsigned ?_ (List.cons_ne_nil _ _) hagain⟩
      rintro _ ⟨⟩
      by_contra hc
      have hdigit : digit? (.char c) = none := if_neg hc
      have hread := hagain [] (by simp [Ends])
      rw [piecesOf_cons, List.cons_append, readUnsigned, hdigit] at hread
      cases hread

theorem exists_signed {n : Number} (h : readUnsigned true (piecesOf chars) = .ok (n, rest)) :
    ∃ text after, chars = text ++ after ∧ rest = piecesOf after ∧
      Stands ('-' :: text) (.number n) 0 := by
  obtain ⟨text, after, rfl, rfl, hagain⟩ := (readUnsigned_rereads true).text h
  exact ⟨_, _, rfl, rfl, stands_of_readUnsigned_minus hagain⟩

theorem exists_endsString {s : String} (h : readString (piecesOf chars) = .ok (s, rest)) :
    ∃ text after, chars = text ++ after ∧ rest = piecesOf after ∧ EndsString text s := by
  obtain ⟨text, after, rfl, rfl, hagain⟩ := readString_rereads.text h
  exact ⟨text, after, rfl, rfl, fun rest' => hagain rest' trivial⟩

theorem exists_word {word : List Char} (h : readWord word (piecesOf chars) = .ok rest) :
    ∃ after, chars = word ++ after ∧ rest = piecesOf after := by
  obtain ⟨text, after, rfl, htext, rfl⟩ := exists_of_piecesOf_eq_append (readWord_eq_ok h)
  have hsame : text = word :=
    (List.map_injective_iff.mpr fun a b hab => by injection hab) htext.symm
  exact ⟨after, by rw [hsame], rfl⟩

/-- How a value is read from its first character on. -/
inductive ReadAs (bound depth : ℕ) (rest : List Piece) : List Char → Value → Prop
  | null {tail : List Char} (h : readWord "ull".toList (piecesOf tail) = .ok rest) :
      ReadAs bound depth rest ('n' :: tail) .null
  | bool {b : Bool} {first : Char} {word tail : List Char} (hword : boolChars b = first :: word)
      (h : readWord word (piecesOf tail) = .ok rest) :
      ReadAs bound depth rest (first :: tail) (.bool b)
  | signed {tail : List Char} {n : Number}
      (h : readUnsigned true (piecesOf tail) = .ok (n, rest)) :
      ReadAs bound depth rest ('-' :: tail) (.number n)
  | unsigned {text : List Char} {n : Number}
      (h : readUnsigned false (piecesOf text) = .ok (n, rest)) :
      ReadAs bound depth rest text (.number n)
  | string {tail : List Char} {s : String} (h : readString (piecesOf tail) = .ok (s, rest)) :
      ReadAs bound depth rest ('"' :: tail) (.string s)
  | array {tail : List Char} {items : List Value} (hdeep : ¬ depth ≤ 1)
      (h : readItems bound (depth - 1) true [] (piecesOf tail) = .ok (items, rest)) :
      ReadAs bound depth rest ('[' :: tail) (.array items.reverse)
  | object {tail : List Char} {members : List (String × Value)} (hdeep : ¬ depth ≤ 1)
      (h : readMembers bound (depth - 1) true [] (piecesOf tail) = .ok (members, rest)) :
      ReadAs bound depth rest ('\x7b' :: tail) (.object members)

theorem exists_readAs {v : Value}
    (h : readValue (bound + 1) depth (piecesOf chars) = .ok (v, rest)) :
    ∃ blanks text, chars = blanks ++ text ∧ AllBlank blanks ∧ ReadAs bound depth rest text v := by
  obtain ⟨blanks, text, rfl, hblanks, hskip⟩ := exists_skipBlank chars
  refine ⟨blanks, text, rfl, hblanks, ?_⟩
  rw [readValue, hskip] at h
  have hmap {α : Type} {r : Except Fault α} {f : α → Value × List Piece}
      (hread : r.map f = .ok (v, rest)) : ∃ a, r = .ok a ∧ f a = (v, rest) :=
    map_eq_ok_iff.mp hread
  cases text with
  | nil => cases h
  | cons c tail =>
      simp only [piecesOf_cons] at h
      split at h
      · next heq =>
        cases heq
        obtain ⟨_, hword, ⟨⟩⟩ := hmap h
        exact .null hword
      · next heq =>
        cases heq
        obtain ⟨_, hword, ⟨⟩⟩ := hmap h
        exact .bool (b := true) rfl hword
      · next heq =>
        cases heq
        obtain ⟨_, hword, ⟨⟩⟩ := hmap h
        exact .bool (b := false) rfl hword
      · next heq =>
        cases heq
        obtain ⟨_, hnumber, ⟨⟩⟩ := hmap h
        exact .signed hnumber
      · next heq =>
        cases heq
        obtain ⟨_, hstring, ⟨⟩⟩ := hmap h
        exact .string hstring
      · next heq =>
        cases heq
        split at h
        · cases h
        · next hdeep =>
          obtain ⟨_, hitems, ⟨⟩⟩ := hmap h
          exact .array hdeep hitems
      · next heq =>
        cases heq
        split at h
        · cases h
        · next hdeep =>
          obtain ⟨_, hmembers, ⟨⟩⟩ := hmap h
          exact .object hdeep hmembers
      · split at h
        · obtain ⟨_, hnumber, ⟨⟩⟩ := hmap h
          exact .unsigned hnumber
        · cases h

/-- A string that stands in a text is what it ends in. -/
theorem Stands.exists_endsString {text : List Char} {s : String} {levels : ℕ}
    (h : Stands text (.string s) levels) :
    ∃ blanks quoted, text = blanks ++ '"' :: quoted ∧ AllBlank blanks ∧ EndsString quoted s := by
  have hread := h (2 * text.length + 1) (levels + 1) [] (Nat.le_succ _) (Nat.lt_succ_self _)
    (by simp [Ends])
  rw [List.append_nil] at hread
  obtain ⟨blanks, _, rfl, hblanks, hstring⟩ := exists_readAs hread
  cases hstring with
  | string hstring =>
      obtain ⟨quoted, after, rfl, hafter, hends⟩ := Json.exists_endsString hstring
      obtain rfl : after = [] := List.map_eq_nil_iff.mp hafter.symm
      exact ⟨blanks, quoted, by rw [List.append_nil], hblanks, hends⟩

/-- Blanks before a value belong to its text. -/
theorem Inverts.value_step (ih : Inverts bound) {v : Value}
    (h : readValue (bound + 1) depth (piecesOf chars) = .ok (v, rest)) :
    ∃ text after, chars = text ++ after ∧ rest = piecesOf after ∧ Stands text v (depth - 1) := by
  obtain ⟨blanks, text, rfl, hblanks, hread⟩ := exists_readAs h
  suffices hvalue : ∃ core after, text = core ++ after ∧ rest = piecesOf after ∧
      Stands core v (depth - 1) by
    obtain ⟨core, after, rfl, hrest, hstands⟩ := hvalue
    exact ⟨blanks ++ core, after, (List.append_assoc ..).symm, hrest,
      hstands.behindBlanks hblanks⟩
  have hatom {core : List Char} (hstands : Stands core v 0) : Stands core v (depth - 1) :=
    hstands.mono (Nat.zero_le _)
  have hnested {core : List Char} (hdeep : ¬ depth ≤ 1)
      (hdenotes : Denotes core v (depth - 1 - 1 + 1)) : Stands core v (depth - 1) :=
    hdenotes.stands.mono (by omega)
  cases hread with
  | null hword =>
      obtain ⟨after, rfl, rfl⟩ := exists_word hword
      exact ⟨_, after, rfl, rfl, hatom Denotes.null.stands⟩
  | @bool b first word tail hchars hword =>
      obtain ⟨after, rfl, rfl⟩ := exists_word hword
      exact ⟨first :: word, after, rfl, rfl, hatom (hchars ▸ (Denotes.bool b).stands)⟩
  | signed hnumber =>
      obtain ⟨core, after, rfl, rfl, hstands⟩ := exists_signed hnumber
      exact ⟨'-' :: core, after, rfl, rfl, hatom hstands⟩
  | unsigned hnumber =>
      obtain ⟨core, after, rfl, rfl, hstands⟩ := exists_unsigned hnumber
      exact ⟨core, after, rfl, rfl, hatom hstands⟩
  | string hstring =>
      obtain ⟨core, after, rfl, rfl, hends⟩ := exists_endsString hstring
      exact ⟨'"' :: core, after, rfl, rfl, hatom hends.denotes.stands⟩
  | array hdeep hitems =>
      obtain ⟨core, values, after, rfl, rfl, hcore, rfl⟩ := ih.list hitems
      rw [List.reverse_reverse] at hnested ⊢
      exact ⟨'[' :: core, after, rfl, rfl, hnested hdeep hcore.denotes⟩
  | object hdeep hmembers =>
      obtain ⟨core, entries, after, rfl, rfl, hcore, rfl⟩ := ih.object hmembers
      exact ⟨'\x7b' :: core, after, rfl, rfl, hnested hdeep hcore.denotes⟩

theorem Inverts.list_step (ih : Inverts bound) {items : List Value}
    (h : readItems (bound + 1) depth true [] (piecesOf chars) = .ok (items, rest)) :
    ∃ text values after, chars = text ++ after ∧ rest = piecesOf after ∧
      ItemsText (depth - 1) text values ∧ items = values.reverse := by
  obtain ⟨blanks, tail, rfl, hblanks, hskip⟩ := exists_skipBlank chars
  rw [readItems, hskip] at h
  cases tail with
  | nil => cases h
  | cons c tail =>
      simp only [piecesOf_cons, if_true] at h
      split at h
      · next hclose =>
        obtain rfl := Piece.char.inj hclose
        obtain ⟨rfl, rfl⟩ := Prod.mk.inj (Except.ok.inj h)
        exact ⟨blanks ++ [']'], [], tail, by simp, rfl, .none hblanks, rfl⟩
      · split at h
        · cases h
        · next v s hvalue =>
          rw [← piecesOf_cons] at hvalue
          obtain ⟨text, behind, hsplit, rfl, hstands⟩ := ih.value hvalue
          obtain ⟨gap, later, values, after, rfl, hgap, rfl, hlater, rfl⟩ := ih.items h
          refine ⟨itemsChars (⟨blanks ++ text, gap⟩ :: later), v :: values, after, ?_, rfl,
            .some (.cons ⟨hstands.behindBlanks hblanks, hgap⟩ hlater), by simp⟩
          simp [hsplit, itemsChars, ItemSpelling.chars]

theorem Inverts.items_step (ih : Inverts bound) {done items : List Value}
    (h : readItems (bound + 1) depth false done (piecesOf chars) = .ok (items, rest)) :
    ∃ gap later values after, chars = gap ++ (laterItems later ++ ']' :: after) ∧
      AllBlank gap ∧ rest = piecesOf after ∧
      List.Forall₂ (ItemSpelling.Spells (depth - 1)) later values ∧
      items = values.reverse ++ done := by
  obtain ⟨gap, tail, rfl, hgap, hskip⟩ := exists_skipBlank chars
  rw [readItems, hskip] at h
  cases tail with
  | nil => cases h
  | cons c tail =>
      simp only [piecesOf_cons, Bool.false_eq_true, if_false] at h
      split at h
      · next hclose =>
        obtain rfl := Piece.char.inj hclose
        obtain ⟨rfl, rfl⟩ := Prod.mk.inj (Except.ok.inj h)
        exact ⟨gap, [], [], tail, rfl, hgap, rfl, .nil, rfl⟩
      · split at h
        · next hcomma =>
          obtain rfl := Piece.char.inj hcomma
          obtain ⟨blanks, tail, rfl, hblanks, hskip⟩ := exists_skipBlank tail
          rw [hskip] at h
          cases tail with
          | nil => cases h
          | cons d tail =>
              simp only [piecesOf_cons] at h
              split at h
              · cases h
              · split at h
                · cases h
                · next v s hvalue =>
                  rw [← piecesOf_cons] at hvalue
                  obtain ⟨text, behind, hsplit, rfl, hstands⟩ := ih.value hvalue
                  obtain ⟨gap', later, values, after, rfl, hgap', rfl, hlater, rfl⟩ := ih.items h
                  refine ⟨gap, ⟨blanks ++ text, gap'⟩ :: later, v :: values, after, ?_, hgap, rfl,
                    .cons ⟨hstands.behindBlanks hblanks, hgap'⟩ hlater, by simp⟩
                  simp [hsplit, laterItems_cons, ItemSpelling.chars]
        · cases h

/-- The blanks in front of a name belong to the member. -/
theorem Spelling.Spells.behindBlanks {levels : ℕ} {w : Spelling} {p : String × Value}
    (h : w.Spells levels p) {blanks : List Char} (hblanks : AllBlank blanks) :
    Spelling.Spells levels { w with before := blanks } p :=
  ⟨⟨hblanks, h.names.name, h.names.gap, h.names.lead, h.names.after⟩, h.value⟩

theorem Inverts.object_step (ih : Inverts bound) {members : List (String × Value)}
    (h : readMembers (bound + 1) depth true [] (piecesOf chars) = .ok (members, rest)) :
    ∃ text entries after, chars = text ++ after ∧ rest = piecesOf after ∧
      MembersText (depth - 1) text entries ∧ members = Entries.ofPairs entries := by
  obtain ⟨blanks, tail, rfl, hblanks, hskip⟩ := exists_skipBlank chars
  rw [readMembers, hskip] at h
  cases tail with
  | nil => cases h
  | cons c tail =>
      simp only [piecesOf_cons, if_true] at h
      split at h
      · next hclose =>
        obtain rfl := Piece.char.inj hclose
        obtain ⟨rfl, rfl⟩ := Prod.mk.inj (Except.ok.inj h)
        exact ⟨blanks ++ ['\x7d'], [], tail, by simp, rfl, .none hblanks, rfl⟩
      · split at h
        · next hquote =>
          obtain rfl := Piece.char.inj hquote
          obtain ⟨w, p, later, entries, after, rfl, rfl, hspells, rfl⟩ := ih.member h
          obtain ⟨hw, hlater⟩ := List.forall₂_cons.mp hspells
          refine ⟨membersChars ({ w with before := blanks } :: later), p :: entries, after, ?_, rfl,
            .some (.cons (hw.behindBlanks hblanks) hlater), rfl⟩
          simp [membersChars, Spelling.chars, Spelling.tailChars]
        · cases h

theorem Inverts.members_step (ih : Inverts bound) {done members : List (String × Value)}
    (h : readMembers (bound + 1) depth false done (piecesOf chars) = .ok (members, rest)) :
    ∃ gap later entries after, chars = gap ++ (laterChars later ++ '\x7d' :: after) ∧
      AllBlank gap ∧ rest = piecesOf after ∧
      List.Forall₂ (Spelling.Spells (depth - 1)) later entries ∧
      members = entries.foldl (fun m p => Entries.insert p.1 p.2 m) done := by
  obtain ⟨gap, tail, rfl, hgap, hskip⟩ := exists_skipBlank chars
  rw [readMembers, hskip] at h
  cases tail with
  | nil => cases h
  | cons c tail =>
      simp only [piecesOf_cons, Bool.false_eq_true, if_false] at h
      split at h
      · next hclose =>
        obtain rfl := Piece.char.inj hclose
        obtain ⟨rfl, rfl⟩ := Prod.mk.inj (Except.ok.inj h)
        exact ⟨gap, [], [], tail, rfl, hgap, rfl, .nil, rfl⟩
      · split at h
        · next hcomma =>
          obtain rfl := Piece.char.inj hcomma
          obtain ⟨blanks, tail, rfl, hblanks, hskip⟩ := exists_skipBlank tail
          rw [hskip] at h
          cases tail with
          | nil => cases h
          | cons d tail =>
              simp only [piecesOf_cons] at h
              split at h
              · next hquote =>
                obtain rfl := Piece.char.inj hquote
                obtain ⟨w, p, later, entries, after, rfl, rfl, hspells, rfl⟩ := ih.member h
                obtain ⟨hw, hlater⟩ := List.forall₂_cons.mp hspells
                refine ⟨gap, { w with before := blanks } :: later, p :: entries, after, ?_, hgap,
                  rfl, .cons (hw.behindBlanks hblanks) hlater, rfl⟩
                simp [laterChars_cons, Spelling.chars, Spelling.tailChars]
              · split at h <;> cases h
        · cases h

theorem Inverts.member_step (ih : Inverts bound) {done members : List (String × Value)}
    (h : readMember (bound + 1) depth done (piecesOf chars) = .ok (members, rest)) :
    ∃ w p later entries after,
      chars = Spelling.tailChars w ++ (laterChars later ++ '\x7d' :: after) ∧
      rest = piecesOf after ∧
      List.Forall₂ (Spelling.Spells (depth - 1)) (w :: later) (p :: entries) ∧
      members = (p :: entries).foldl (fun m p => Entries.insert p.1 p.2 m) done := by
  rw [readMember] at h
  split at h
  · cases h
  · next name s hname =>
    obtain ⟨text, tail, rfl, rfl, hends⟩ := exists_endsString hname
    obtain ⟨gap, tail, rfl, hgap, hskip⟩ := exists_skipBlank tail
    rw [hskip] at h
    cases tail with
    | nil => cases h
    | cons c tail =>
        simp only [piecesOf_cons] at h
        split at h
        · next hcolon =>
          obtain rfl := Piece.char.inj hcolon
          split at h
          · cases h
          · next v s hvalue =>
            obtain ⟨value, tail, rfl, rfl, hstands⟩ := ih.value hvalue
            obtain ⟨after, later, entries, rest, rfl, hafter, rfl, hlater, rfl⟩ := ih.members h
            refine ⟨⟨[], text, gap, [], value, after⟩, (name, v), later, entries, rest, ?_, rfl,
              .cons ⟨⟨allBlank_nil, hends, hgap, allBlank_nil, hafter⟩, hstands⟩ hlater, rfl⟩
            simp [Spelling.tailChars]
        · cases h

end Steps

/-- The reader takes nothing but spelled text, with any bound. -/
theorem inverts (bound : ℕ) : Inverts bound := by
  induction bound with
  | zero =>
      refine ⟨fun h => ?_, fun h => ?_, fun h => ?_, fun h => ?_, fun h => ?_, fun h => ?_⟩
      · rw [readValue] at h
        cases h
      · rw [readItems] at h
        cases h
      · rw [readItems] at h
        cases h
      · rw [readMembers] at h
        cases h
      · rw [readMembers] at h
        cases h
      · rw [readMember] at h
        cases h
  | succ bound ih =>
      exact ⟨ih.value_step, ih.list_step, ih.items_step, ih.object_step, ih.members_step,
        ih.member_step⟩

/-! ## Whole texts -/

/-- The text is an object with those members in that order, and blanks
around it. -/
def Lists (s : String) (entries : List (String × Value)) : Prop :=
  ∃ opening text closing, s.toList = opening ++ ('\x7b' :: text ++ closing) ∧
    AllBlank opening ∧ AllBlank closing ∧ MembersText (depthLimit - 2) text entries

/-- A text that is read as an object is spelled as one. -/
theorem exists_lists {s : String} {members : List (String × Value)}
    (h : Value.ofText s = .ok (.object members)) :
    ∃ entries, Lists s entries ∧ members = Entries.ofPairs entries := by
  have hread := mapError_eq_ok_iff.mp h
  rw [readPieces] at hread
  split at hread
  · cases hread
  · next v rest hvalue =>
    split at hread
    · next hend =>
      obtain rfl := Except.ok.inj hread
      have hpieces : pieces s = piecesOf s.toList := rfl
      rw [hpieces] at hvalue
      obtain ⟨opening, _, hs, hopening, hobject⟩ := exists_readAs hvalue
      cases hobject with
      | object hdeep hmembers =>
          obtain ⟨text, entries, closing, rfl, rfl, htext, rfl⟩ := (inverts _).object hmembers
          obtain ⟨blanks, more, rfl, hblanks, hskip⟩ := exists_skipBlank closing
          rw [hend] at hskip
          obtain rfl : more = [] := List.map_eq_nil_iff.mp hskip.symm
          exact ⟨entries, ⟨opening, text, blanks, by simp [hs], hopening, hblanks, htext⟩, rfl⟩
    · cases hread

theorem Lists.ofText {s : String} {entries : List (String × Value)} (h : Lists s entries) :
    Value.ofText s = .ok (.object (Entries.ofPairs entries)) := by
  obtain ⟨opening, text, closing, hs, hopening, hclosing, htext⟩ := h
  rw [← String.ofList_toList (s := s), hs]
  exact htext.denotes.ofText_between (by decide) hopening hclosing

theorem kind_eq_object_iff {v : Value} : v.kind = .object ↔ ∃ entries, v = .object entries := by
  cases v <;> simp [Value.kind]

/-- The texts that are read as objects are those that list members. -/
theorem ofText_object_iff {s : String} :
    (∃ v, Value.ofText s = .ok v ∧ v.kind = .object) ↔ ∃ members, Lists s members := by
  constructor
  · rintro ⟨v, h, hkind⟩
    obtain ⟨entries, rfl⟩ := kind_eq_object_iff.mp hkind
    obtain ⟨members, hlists, -⟩ := exists_lists h
    exact ⟨members, hlists⟩
  · rintro ⟨members, h⟩
    exact ⟨_, h.ofText, rfl⟩

end Json

end UploadHooks
