import UploadHooks.Proofs.Text.Utf8
import UploadHooks.Url.Percent

/-!
# Percent-encoding is undone by decoding

An escape decodes to its byte (`decode_escape_append`), and any byte but
the percent sign to itself (`decode_cons_of_ne`). So a text that is encoded
under any set of characters decodes to the text, as long as the set has the
percent sign in it and everything beyond ASCII (`LeavesAscii`): nothing
that stands for itself can then be taken for an escape, or for a byte of
another character.

What an encoded text consists of is in `mem_encode`: characters of the
text outside the set, and those of which escapes are made.
-/

namespace UploadHooks

namespace Url

namespace Percent

open Utf8 (encodeChars encodeChars_cons encodeChars_append asciiByte encodeChar_ascii asciiByte_inj)

/-! ## Escapes -/

theorem upperHexDigit_ascii : ∀ n, n < 16 → (upperHexDigit n).toNat < 0x80 := by decide

theorem hexValue?_upperHexDigit :
    ∀ n, n < 16 → hexValue? (asciiByte (upperHexDigit n)) = some n := by
  decide

/-- An escape as bytes. -/
def escape (b : UInt8) : List UInt8 :=
  [0x25, asciiByte (upperHexDigit (b.toNat / 16)), asciiByte (upperHexDigit (b.toNat % 16))]

theorem encodeChars_encodeByte (b : UInt8) : encodeChars (encodeByte b) = escape b := by
  have hb := b.toNat_lt
  have hhigh := upperHexDigit_ascii (b.toNat / 16) (by omega)
  have hlow := upperHexDigit_ascii (b.toNat % 16) (by omega)
  simp only [encodeByte, encodeChars_cons, encodeChar_ascii hhigh, encodeChar_ascii hlow]
  rfl

theorem encodeChars_escapes (bytes : List UInt8) :
    encodeChars (bytes.flatMap encodeByte) = bytes.flatMap escape := by
  induction bytes with
  | nil => rfl
  | cons b bytes ih =>
      rw [List.flatMap_cons, encodeChars_append, encodeChars_encodeByte, ih, List.flatMap_cons]

theorem decode_escape_append (b : UInt8) (rest : List UInt8) :
    decode (escape b ++ rest) = b :: decode rest := by
  have hb := b.toNat_lt
  have hhigh := hexValue?_upperHexDigit (b.toNat / 16) (by omega)
  have hlow := hexValue?_upperHexDigit (b.toNat % 16) (by omega)
  have hbyte : b.toNat / 16 * 16 + b.toNat % 16 = b.toNat := by omega
  simp only [escape, List.cons_append, List.nil_append, decode, hhigh, hlow, if_true, hbyte,
    UInt8.ofNat_toNat]

theorem decode_escapes_append (bytes rest : List UInt8) :
    decode (bytes.flatMap escape ++ rest) = bytes ++ decode rest := by
  induction bytes with
  | nil => rfl
  | cons b bytes ih =>
      rw [List.flatMap_cons, List.append_assoc, decode_escape_append, ih, List.cons_append]

/-- A byte that is no percent sign stands for itself. -/
theorem decode_cons_of_ne {b : UInt8} (h : b ≠ 0x25) (rest : List UInt8) :
    decode (b :: rest) = b :: decode rest := by
  match rest with
  | [] => rfl
  | [c] => rfl
  | c :: d :: rest =>
    rw [decode]
    split
    · rw [if_neg h]
    · rfl

/-! ## Texts -/

/-- What is left as it is can be told from an escape. -/
def LeavesAscii (inSet : Char → Bool) : Prop :=
  ∀ c, inSet c = false → c.toNat < 0x80 ∧ c ≠ '%'

theorem decode_encodeChar_append {inSet : Char → Bool} (h : LeavesAscii inSet) (c : Char)
    (rest : List UInt8) :
    decode (encodeChars (encodeChar inSet c) ++ rest) = String.utf8EncodeChar c ++ decode rest := by
  rw [encodeChar]
  cases hc : inSet c with
  | true =>
      rw [if_pos rfl, encodeChars_escapes, decode_escapes_append]
  | false =>
      obtain ⟨hascii, hpercent⟩ := h c hc
      have hne : asciiByte c ≠ 0x25 := fun heq =>
        hpercent ((asciiByte_inj hascii (by decide)).mp (heq.trans (by decide)))
      have hchars : encodeChars [c] = [asciiByte c] := by
        rw [encodeChars_cons, encodeChar_ascii hascii]
        rfl
      rw [if_neg Bool.false_ne_true, hchars, encodeChar_ascii hascii]
      exact decode_cons_of_ne hne rest

theorem decode_encode {inSet : Char → Bool} (h : LeavesAscii inSet) (text : List Char) :
    decode (encodeChars (encode inSet text)) = encodeChars text := by
  induction text with
  | nil => rfl
  | cons c text ih =>
      rw [encode, List.flatMap_cons, encodeChars_append, decode_encodeChar_append h,
        encodeChars_cons]
      exact congrArg _ ih

/-- An encoded text decodes to the text. -/
theorem decodeText?_encode {inSet : Char → Bool} (h : LeavesAscii inSet) (text : List Char) :
    decodeText? (String.ofList (encode inSet text)) = some (String.ofList text) := by
  have hbytes : Utf8.encode (String.ofList text) = encodeChars text := by
    rw [Utf8.encode, String.toList_ofList]
  rw [decodeText?, Utf8.encode, String.toList_ofList, decode_encode h, ← hbytes, Utf8.text?_encode]

/-! ## Characters of encoded texts -/

/-- The characters of which escapes are made. -/
def escapeChars : List Char := '%' :: (List.range 16).map upperHexDigit

theorem mem_escapeChars_of_mem_encodeByte {b : UInt8} {c : Char} (h : c ∈ encodeByte b) :
    c ∈ escapeChars := by
  have hb := b.toNat_lt
  have hdigit : ∀ n, n < 16 → upperHexDigit n ∈ escapeChars := fun n hn =>
    List.mem_cons_of_mem _ (List.mem_map_of_mem (List.mem_range.mpr hn))
  simp only [encodeByte, List.mem_cons, List.not_mem_nil, or_false] at h
  rcases h with rfl | rfl | rfl
  · exact List.mem_cons_self ..
  · exact hdigit _ (by omega)
  · exact hdigit _ (by omega)

theorem mem_encode {inSet : Char → Bool} {text : List Char} {c : Char}
    (h : c ∈ encode inSet text) : (c ∈ text ∧ inSet c = false) ∨ c ∈ escapeChars := by
  obtain ⟨d, hmem, hd⟩ := List.mem_flatMap.mp h
  rw [encodeChar] at hd
  cases hset : inSet d with
  | true =>
      rw [hset, if_pos rfl] at hd
      obtain ⟨b, -, hb⟩ := List.mem_flatMap.mp hd
      exact .inr (mem_escapeChars_of_mem_encodeByte hb)
  | false =>
      rw [hset, if_neg Bool.false_ne_true] at hd
      rw [List.mem_singleton.mp hd]
      exact .inl ⟨hmem, hset⟩

theorem encode_append (inSet : Char → Bool) (s t : List Char) :
    encode inSet (s ++ t) = encode inSet s ++ encode inSet t :=
  List.flatMap_append

/-- Where nothing is to be encoded, nothing changes. -/
theorem encode_eq_self {inSet : Char → Bool} {text : List Char}
    (h : ∀ c ∈ text, inSet c = false) : encode inSet text = text := by
  have hchar : ∀ c ∈ text, encodeChar inSet c = [c] := fun c hc => by
    rw [encodeChar, h c hc, if_neg Bool.false_ne_true]
  rw [encode, List.flatMap_congr hchar]
  exact List.flatMap_singleton' text

/-! ## The sets of a segment -/

theorem leavesAscii_segment : LeavesAscii segment := by
  intro c hc
  simp only [segment, path, fragment, control, Bool.or_eq_false_iff, decide_eq_false_iff_not,
    beq_eq_false_iff_ne] at hc
  exact ⟨by omega, hc.2⟩

theorem leavesAscii_specialSegment : LeavesAscii specialSegment := by
  intro c hc
  simp only [specialSegment, Bool.or_eq_false_iff] at hc
  exact leavesAscii_segment c hc.1

end Percent

end Url

end UploadHooks
