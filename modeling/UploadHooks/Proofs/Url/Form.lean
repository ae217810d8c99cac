import UploadHooks.Proofs.Url.Percent
import UploadHooks.Url.Form

/-!
# Parameters read back

A query that parameters are added to reads as it did before, followed by
exactly these parameters (`decode_append`), whatever the query holds and
whatever the names and values are.

Two facts about encoded text make that so. It decodes to the text
(`decodeText_encodeText`). And it consists of characters that `isWritten`
allows, among which there is no ampersand, equals sign or number sign: a
piece begins and ends where it is written to, and so does the query.
-/

namespace UploadHooks

namespace Url

namespace Form

open Utf8 (encodeChars encodeChars_cons encodeChars_append asciiByte encodeChar_ascii asciiByte_inj)

/-! ## What encoded text consists of -/

/-- The characters of an encoded name or value. -/
def isWritten (c : Char) : Bool := isPlain c || c == '+' || c == '%'

theorem isAlphanum_ascii {c : Char} (h : c.isAlphanum = true) : c.toNat < 0x80 := by
  have hlast : ∀ last : Char, last.toNat < 0x80 → c.val ≤ last.val → c.toNat < 0x80 :=
    fun _ hlast hle => Nat.lt_of_le_of_lt (UInt32.le_iff_toNat_le.mp hle) hlast
  rcases Bool.or_eq_true_iff.mp h with halpha | hdigit
  · rcases Bool.or_eq_true_iff.mp halpha with hupper | hlower
    · exact hlast 'Z' (by decide) (of_decide_eq_true hupper).2
    · exact hlast 'z' (by decide) (of_decide_eq_true (Bool.and_eq_true_iff.mp hlower).2)
  · exact hlast '9' (by decide) (of_decide_eq_true (Bool.and_eq_true_iff.mp hdigit).2)

theorem isPlain_ascii {c : Char} (h : isPlain c = true) : c.toNat < 0x80 := by
  simp only [isPlain, Bool.or_eq_true, beq_iff_eq] at h
  rcases h with (((h | rfl) | rfl) | rfl) | rfl
  · exact isAlphanum_ascii h
  all_goals decide

theorem isWritten_ascii {c : Char} (h : isWritten c = true) : c.toNat < 0x80 := by
  simp only [isWritten, Bool.or_eq_true, beq_iff_eq] at h
  rcases h with (h | rfl) | rfl
  · exact isPlain_ascii h
  · decide
  · decide

theorem all_isWritten_escapeChars : Percent.escapeChars.all isWritten = true := by decide

theorem isWritten_of_mem_encodeText {s : String} {c : Char} (h : c ∈ encodeText s) :
    isWritten c = true := by
  obtain ⟨d, -, hd⟩ := List.mem_flatMap.mp h
  rw [encodeChar] at hd
  split at hd
  · next hplain =>
    rw [List.mem_singleton.mp hd, isWritten, hplain, Bool.true_or, Bool.true_or]
  · split at hd
    · rw [List.mem_singleton.mp hd]
      decide
    · obtain ⟨b, -, hb⟩ := List.mem_flatMap.mp hd
      exact List.all_eq_true.mp all_isWritten_escapeChars c
        (Percent.mem_escapeChars_of_mem_encodeByte hb)

/-- Delimiters do not occur in encoded text, nor do their bytes. -/
theorem asciiByte_not_mem {d : Char} (hascii : d.toNat < 0x80) (hd : isWritten d = false)
    {text : List Char} (h : ∀ c ∈ text, isWritten c = true) : asciiByte d ∉ encodeChars text := by
  intro hmem
  obtain ⟨c, hc, hbyte⟩ := List.mem_flatMap.mp hmem
  rw [encodeChar_ascii (isWritten_ascii (h c hc)), List.mem_singleton] at hbyte
  obtain rfl := (asciiByte_inj hascii (isWritten_ascii (h c hc))).mp hbyte
  rw [h d hc] at hd
  cases hd

/-! ## Names and values -/

theorem plusToSpace_of_ne {b : UInt8} (h : b ≠ 0x2B) : plusToSpace b = b := if_neg h

theorem map_plusToSpace_escape (b : UInt8) :
    (Percent.escape b).map plusToSpace = Percent.escape b := by
  have hb := b.toNat_lt
  have hdigit : ∀ n, n < 16 → plusToSpace (asciiByte (Percent.upperHexDigit n)) =
      asciiByte (Percent.upperHexDigit n) := by decide
  simp only [Percent.escape, List.map_cons, List.map_nil, hdigit (b.toNat / 16) (by omega),
    hdigit (b.toNat % 16) (by omega)]
  rfl

theorem map_plusToSpace_escapes (bytes : List UInt8) :
    (bytes.flatMap Percent.escape).map plusToSpace = bytes.flatMap Percent.escape := by
  induction bytes with
  | nil => rfl
  | cons b bytes ih => rw [List.flatMap_cons, List.map_append, map_plusToSpace_escape, ih]

/-- An encoded character decodes to its bytes, whatever follows. -/
theorem decode_encodeChar_append (c : Char) (rest : List UInt8) :
    Percent.decode ((encodeChars (encodeChar c) ++ rest).map plusToSpace) =
      String.utf8EncodeChar c ++ Percent.decode (rest.map plusToSpace) := by
  rw [List.map_append, encodeChar]
  split
  · next hplain =>
    have hascii := isPlain_ascii hplain
    have hne : ∀ d : Char, d.toNat < 0x80 → isPlain d = false → asciiByte c ≠ asciiByte d := by
      intro d hd hdplain heq
      obtain rfl := (asciiByte_inj hascii hd).mp heq
      rw [hplain] at hdplain
      cases hdplain
    have hbytes : (encodeChars [c]).map plusToSpace = [asciiByte c] := by
      rw [encodeChars_cons, encodeChar_ascii hascii]
      exact congrArg (· :: []) (plusToSpace_of_ne (hne '+' (by decide) (by decide)))
    rw [hbytes, encodeChar_ascii hascii]
    exact Percent.decode_cons_of_ne (hne '%' (by decide) (by decide)) _
  · split
    · next hspace =>
      subst hspace
      exact Percent.decode_cons_of_ne (by decide) _
    · rw [Percent.encodeChars_escapes, map_plusToSpace_escapes, Percent.decode_escapes_append]

theorem decodeText_encodeText (s : String) : decodeText (encodeChars (encodeText s)) = s := by
  have hdecode : ∀ text : List Char,
      Percent.decode ((encodeChars (text.flatMap encodeChar)).map plusToSpace) =
        encodeChars text := by
    intro text
    induction text with
    | nil => rfl
    | cons c text ih =>
        rw [List.flatMap_cons, encodeChars_append, decode_encodeChar_append, encodeChars_cons, ih]
  rw [decodeText, encodeText, hdecode]
  exact Utf8.lossyText_encode s

/-! ## Parameters -/

theorem encodeChars_encodePair (pair : String × String) :
    encodeChars (encodePair pair) =
      encodeChars (encodeText pair.1) ++ 0x3D :: encodeChars (encodeText pair.2) := by
  rw [encodePair, encodeChars_append, encodeChars_append, List.append_assoc]
  rfl

theorem decodePair_encodePair (pair : String × String) :
    decodePair (encodeChars (encodePair pair)) = pair := by
  have hname : ∀ b ∈ encodeChars (encodeText pair.1), (b != 0x3D) = true := fun b hb => by
    have hnot : (0x3D : UInt8) ∉ encodeChars (encodeText pair.1) :=
      asciiByte_not_mem (d := '=') (by decide) (by decide) fun c => isWritten_of_mem_encodeText
    exact bne_iff_ne.mpr fun heq => hnot (heq ▸ hb)
  rw [decodePair, encodeChars_encodePair, List.takeWhile_append_of_pos hname,
    List.dropWhile_append_of_pos hname]
  have hequals : ((0x3D : UInt8) != 0x3D) = false := by decide
  simp only [List.takeWhile_cons, List.dropWhile_cons, hequals, Bool.false_eq_true, if_false,
    List.append_nil, List.drop_succ_cons, List.drop_zero, decodeText_encodeText]

theorem isWritten_of_mem_encodePair {pair : String × String} {c : Char} (h : c ∈ encodePair pair) :
    isWritten c = true ∨ c = '=' := by
  simp only [encodePair, List.mem_append, List.mem_singleton] at h
  rcases h with (h | h) | h
  · exact .inl (isWritten_of_mem_encodeText h)
  · exact .inr h
  · exact .inl (isWritten_of_mem_encodeText h)

theorem decode_encodePair (pair : String × String) :
    decode (encodeChars (encodePair pair)) = [pair] := by
  have hnot : ∀ text, (0x26 : UInt8) ∉ encodeChars (encodeText text) := fun text =>
    asciiByte_not_mem (d := '&') (by decide) (by decide) fun c => isWritten_of_mem_encodeText
  have hpiece : ∀ b ∈ encodeChars (encodePair pair), (b == 0x26) = false := by
    intro b hb
    rw [encodeChars_encodePair, List.mem_append, List.mem_cons] at hb
    rw [beq_eq_false_iff_ne]
    rcases hb with hb | rfl | hb
    · exact fun heq => hnot pair.1 (heq ▸ hb)
    · decide
    · exact fun heq => hnot pair.2 (heq ▸ hb)
  have hne : encodeChars (encodePair pair) ≠ [] := by
    rw [encodeChars_encodePair]
    simp
  rw [decode, List.splitOnP_eq_singleton hpiece]
  simp [hne, decodePair_encodePair]

/-- The bytes behind an ampersand are read apart from those before it. -/
theorem decode_append_ampersand (front back : List UInt8) :
    decode (front ++ 0x26 :: back) = decode front ++ decode back := by
  rw [decode, List.splitOnP_append_cons _ _ (by decide), List.filter_append, List.map_append]
  rfl

/-- Added parameters are read behind those of the query, as they were
given. -/
theorem decode_append (query : List Char) (pairs : List (String × String)) :
    decode (encodeChars (append query pairs)) = decode (encodeChars query) ++ pairs := by
  induction pairs generalizing query with
  | nil => rw [append, List.append_nil]
  | cons pair pairs ih =>
      have hpair : decode (encodeChars (query ++ (if query.isEmpty then [] else ['&']) ++
          encodePair pair)) = decode (encodeChars query) ++ [pair] := by
        cases query with
        | nil => exact decode_encodePair pair
        | cons c query =>
            rw [encodeChars_append, encodeChars_append, List.append_assoc]
            exact (decode_append_ampersand _ _).trans (congrArg _ (decode_encodePair pair))
      rw [append, ih, hpair, List.append_assoc, List.singleton_append]

/-- Nor does the query come to an end inside a parameter. -/
theorem mem_append_numberSign (query : List Char) (pairs : List (String × String)) :
    '#' ∈ append query pairs ↔ '#' ∈ query := by
  induction pairs generalizing query with
  | nil => rw [append]
  | cons pair pairs ih =>
      have hpair : '#' ∉ encodePair pair := fun h => by
        rcases isWritten_of_mem_encodePair h with h | h
        · exact absurd h (by decide)
        · exact absurd h (by decide)
      have hseparator : '#' ∉ (if query.isEmpty then [] else ['&']) := by split <;> decide
      rw [append, ih]
      simp only [List.mem_append, hpair, hseparator, or_false]

end Form

end Url

end UploadHooks
