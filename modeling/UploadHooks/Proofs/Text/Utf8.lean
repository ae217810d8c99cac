import Mathlib.Data.List.Forall2
import Mathlib.Data.List.Induction
import UploadHooks.Proofs.Text.ByteOrder

/-!
# Decoding undoes encoding

The leading byte of a character says how many bytes follow it and within
which bounds each of them has to be, and the bytes that the character is
encoded in are `Within` these bounds (`announced_char`). So the decoder
takes exactly these bytes, whatever follows (`follow_append`), and their
value bits are the digits of the code point (`foldl_continuation`).

An encoded text therefore decodes to its characters, without stray runs,
and both readings of the bytes give the text back (`text?_encode`,
`lossyText_encode`). The bounds also keep out every other form, so there
are no further bytes that decode to a text (`text?_eq_some_iff`).
-/

namespace UploadHooks

namespace Utf8

/-! ## The bytes that follow -/

/-- Each byte is within its bounds. -/
def Within : List (Nat × Nat) → List UInt8 → Prop :=
  List.Forall₂ fun bound b => bound.1 ≤ b.toNat ∧ b.toNat ≤ bound.2

/-- The six value bits of a continuation byte behind those before it. -/
def addBits (value : Nat) (b : UInt8) : Nat := value * 64 + (b.toNat - 0x80)

theorem follow_append {bounds : List (Nat × Nat)} {bytes : List UInt8} (h : Within bounds bytes)
    (value taken : Nat) (rest : List UInt8) :
    follow value taken bounds (bytes ++ rest) =
      (bytes.foldl addBits value, taken + bytes.length, [], rest) := by
  induction h generalizing value taken with
  | nil => cases rest <;> rfl
  | @cons bound b bounds bytes hb _ ih =>
      have hvalue : value * 64 + (b.toNat - 0x80) = addBits value b := rfl
      have hlength : taken + (b :: bytes).length = taken + 1 + bytes.length := by
        rw [List.length_cons]
        omega
      rw [List.cons_append, follow, if_pos hb, hvalue, ih, hlength, List.foldl_cons]

theorem toNat_continuationByte (n : Nat) : (UInt8.ofNat (n % 64 + 0x80)).toNat = n % 64 + 0x80 := by
  rw [UInt8.toNat_ofNat']
  omega

theorem foldl_continuation (k n : Nat) :
    (continuation k n).foldl addBits (n / Nat.pow 64 k) = n := by
  induction k generalizing n with
  | zero => simp [continuation]
  | succ k ih =>
      have hdiv : n / Nat.pow 64 (k + 1) = n / 64 / Nat.pow 64 k := by
        simp only [Nat.pow_eq]
        rw [Nat.pow_succ', Nat.div_div_eq_div_mul]
      have hbits : n / 64 * 64 + ((UInt8.ofNat (n % 64 + 0x80)).toNat - 0x80) = n := by
        rw [toNat_continuationByte]
        omega
      rw [continuation, List.foldl_append, hdiv, ih]
      exact hbits

theorem within_cons {lo hi n : Nat} {bounds : List (Nat × Nat)} {bytes : List UInt8}
    (h : lo ≤ n % 64 + 0x80 ∧ n % 64 + 0x80 ≤ hi) (hrest : Within bounds bytes) :
    Within ((lo, hi) :: bounds) (UInt8.ofNat (n % 64 + 0x80) :: bytes) := by
  refine .cons ?_ hrest
  rw [toNat_continuationByte]
  exact h

theorem within_tail (n : Nat) {bounds : List (Nat × Nat)} {bytes : List UInt8}
    (hrest : Within bounds bytes) :
    Within ((0x80, 0xBF) :: bounds) (UInt8.ofNat (n % 64 + 0x80) :: bytes) :=
  within_cons (by omega) hrest

/-! ## The leading byte

Four leading bytes bound the one behind them more tightly than others do.
The code points for which they stand are the ends of their ranges, and the
surrogates, which are no characters. -/

/-- The leading byte of a code point announces the bytes behind it. -/
def Announced (n : Nat) : Prop :=
  ∃ bounds, leading (UInt8.ofNat (leadByte n)) = some (n / Nat.pow 64 (shape n).1, bounds) ∧
    Within bounds (continuation (shape n).1 n)

section Announced

variable {n : Nat}

theorem toNat_leadByte (h : n < 0x110000) : (UInt8.ofNat (leadByte n)).toNat = leadByte n := by
  rw [UInt8.toNat_ofNat']
  exact Nat.mod_eq_of_lt (leadByte_lt h)

theorem announced_one (h : n < 0x80) : Announced n := by
  have hshape : shape n = (0, 0) := if_pos (by omega)
  simp only [Announced, leading, toNat_leadByte (show n < 0x110000 by omega)]
  simp only [leadByte, hshape, Nat.pow_eq, Nat.pow_zero, Nat.div_one, Nat.add_zero, if_pos h]
  exact ⟨[], rfl, .nil⟩

theorem announced_two (hlow : 0x80 ≤ n) (hhigh : n < 0x800) : Announced n := by
  have hshape : shape n = (1, 0xC0) := by
    rw [shape, if_neg (by omega), if_pos (by omega)]
  simp only [Announced, leading, toNat_leadByte (show n < 0x110000 by omega)]
  simp only [leadByte, hshape, Nat.pow_eq, Nat.pow_one]
  rw [if_neg (by omega), if_neg (by omega), if_pos (by omega), Nat.add_sub_cancel]
  exact ⟨_, rfl, within_tail n .nil⟩

/-- There are three kinds of leading bytes: the least, that of the
surrogates, and the others. -/
theorem announced_three (hlow : 0x800 ≤ n) (hhigh : n < 0x10000)
    (hsurrogate : n < 0xD800 ∨ 0xDFFF < n) : Announced n := by
  have hshape : shape n = (2, 0xE0) := by
    rw [shape, if_neg (by omega), if_neg (by omega), if_pos (by omega)]
  simp only [Announced, leading, toNat_leadByte (show n < 0x110000 by omega)]
  simp only [leadByte, hshape, Nat.pow_eq, Nat.reducePow]
  rw [if_neg (by omega), if_neg (by omega), if_neg (by omega)]
  have htail := within_tail n .nil
  split
  · exact ⟨_, congrArg (fun value => some (value, _)) (by omega), within_cons (by omega) htail⟩
  · split
    · exact ⟨_, congrArg (fun value => some (value, _)) (by omega), within_cons (by omega) htail⟩
    · rw [if_pos (by omega), Nat.add_sub_cancel]
      exact ⟨_, rfl, within_tail (n / 64) htail⟩

/-- There are three kinds of leading bytes: the least, those in between, and
the greatest. -/
theorem announced_four (hlow : 0x10000 ≤ n) (hhigh : n < 0x110000) : Announced n := by
  have hshape : shape n = (3, 0xF0) := by
    rw [shape, if_neg (by omega), if_neg (by omega), if_neg (by omega)]
  simp only [Announced, leading, toNat_leadByte hhigh]
  simp only [leadByte, hshape, Nat.pow_eq, Nat.reducePow]
  rw [if_neg (by omega), if_neg (by omega), if_neg (by omega), if_neg (by omega),
    if_neg (by omega), if_neg (by omega)]
  have htails := within_tail (n / 64) (within_tail n .nil)
  split
  · exact ⟨_, congrArg (fun value => some (value, _)) (by omega), within_cons (by omega) htails⟩
  · split
    · rw [Nat.add_sub_cancel]
      exact ⟨_, rfl, within_tail (n / 64 / 64) htails⟩
    · rw [if_pos (by omega)]
      exact ⟨_, congrArg (fun value => some (value, _)) (by omega), within_cons (by omega) htails⟩

end Announced

theorem announced_char (c : Char) : Announced c.val.toNat := by
  have hvalid : c.val.toNat < 0xD800 ∨ 0xDFFF < c.val.toNat ∧ c.val.toNat < 0x110000 := c.valid
  rcases Nat.lt_or_ge c.val.toNat 0x80 with h₁ | h₁
  · exact announced_one h₁
  rcases Nat.lt_or_ge c.val.toNat 0x800 with h₂ | h₂
  · exact announced_two h₁ h₂
  rcases Nat.lt_or_ge c.val.toNat 0x10000 with h₃ | h₃
  · exact announced_three h₂ h₃ (by omega)
  · exact announced_four h₃ (by omega)

/-! ## Whole texts -/

theorem encodeChars_cons (c : Char) (text : List Char) :
    encodeChars (c :: text) = String.utf8EncodeChar c ++ encodeChars text := List.flatMap_cons ..

/-- A character is decoded from the bytes it is encoded in, whatever follows. -/
theorem decode_encodeChar_append (c : Char) (rest : List UInt8) :
    decode (String.utf8EncodeChar c ++ rest) = .char c :: decode rest := by
  obtain ⟨bounds, hleading, hwithin⟩ := announced_char c
  rw [encodeChar_eq, List.cons_append, decode, hleading]
  simp only [follow_append hwithin, foldl_continuation]
  have hc : Char.ofNat c.val.toNat = c := Char.ofNat_toNat c
  simp only [List.isEmpty_nil, if_true, hc]

theorem decode_encodeChars_append (text : List Char) (rest : List UInt8) :
    decode (encodeChars text ++ rest) = text.map .char ++ decode rest := by
  induction text with
  | nil => rfl
  | cons c text ih =>
      rw [encodeChars, List.flatMap_cons, List.append_assoc, decode_encodeChar_append,
        List.map_cons, List.cons_append]
      exact congrArg _ ih

theorem decode_nil : decode [] = [] := by rw [decode]

theorem decode_encodeChars (text : List Char) : decode (encodeChars text) = text.map .char := by
  have h := decode_encodeChars_append text []
  rwa [decode_nil, List.append_nil, List.append_nil] at h

theorem decode_encode (s : String) : decode (encode s) = pieces s := decode_encodeChars s.toList

theorem Piece.char?_eq_some_iff {p : Piece} {c : Char} : p.char? = some c ↔ p = .char c := by
  cases p <;> simp [Piece.char?]

theorem mapM_char?_eq_some_iff {ps : List Piece} {text : List Char} :
    ps.mapM Piece.char? = some text ↔ ps = text.map .char := by
  induction ps generalizing text with
  | nil => cases text <;> simp
  | cons p ps ih =>
      rw [List.mapM_cons]
      constructor
      · intro h
        obtain ⟨c, hc, h⟩ := Option.bind_eq_some_iff.mp h
        obtain ⟨rest, hrest, h⟩ := Option.bind_eq_some_iff.mp h
        obtain rfl := Option.some.inj h
        rw [Piece.char?_eq_some_iff.mp hc, ih.mp hrest, List.map_cons]
      · intro h
        obtain ⟨c, rest, rfl, hc, hrest⟩ := List.map_eq_cons_iff.mp h.symm
        rw [Piece.char?_eq_some_iff.mpr hc.symm, ih.mpr hrest.symm]
        rfl

theorem text?_encode (s : String) : text? (encode s) = some s := by
  rw [text?, decode_encode, pieces, mapM_char?_eq_some_iff.mpr rfl, Option.map_some,
    String.ofList_toList]

theorem lossyText_encode (s : String) : lossyText (encode s) = s := by
  rw [lossyText, decode_encode, pieces, List.map_map]
  simp [Function.comp_def, Piece.shown]

/-! ## Only encodings decode

Whatever the decoder takes for a character is the encoding of that
character: the value bits give the bytes back, and the bounds keep out the
forms that no character is encoded in. -/

/-- The byte holds six value bits. -/
def IsContinuation (b : UInt8) : Prop := 0x80 ≤ b.toNat ∧ b.toNat ≤ 0xBF

theorem follow_eq {bounds : List (Nat × Nat)} {rest rest' : List UInt8} {value taken v t : Nat}
    (h : follow value taken bounds rest = (v, t, [], rest')) :
    ∃ bytes, rest = bytes ++ rest' ∧ Within bounds bytes ∧ v = bytes.foldl addBits value := by
  induction bounds generalizing value taken rest with
  | nil =>
      have hdone : follow value taken [] rest = (value, taken, [], rest) := by
        cases rest <;> rfl
      rw [hdone] at h
      cases h
      exact ⟨[], rfl, .nil, rfl⟩
  | cons bound bounds ih =>
      obtain ⟨lo, hi⟩ := bound
      cases rest with
      | nil => cases h
      | cons b rest =>
          have hvalue : value * 64 + (b.toNat - 0x80) = addBits value b := rfl
          rw [follow, hvalue] at h
          by_cases hb : lo ≤ b.toNat ∧ b.toNat ≤ hi
          · rw [if_pos hb] at h
            obtain ⟨bytes, hrest, hwithin, hv⟩ := ih h
            refine ⟨b :: bytes, congrArg _ hrest, .cons hb hwithin, ?_⟩
            rw [hv, List.foldl_cons]
          · rw [if_neg hb] at h
            cases h

theorem continuation_foldl {bytes : List UInt8} (h : ∀ b ∈ bytes, IsContinuation b) (value : Nat) :
    continuation bytes.length (bytes.foldl addBits value) = bytes := by
  induction bytes using List.reverseRecOn with
  | nil => rfl
  | append_singleton bytes b ih =>
      obtain ⟨hlow, hhigh⟩ := h b (by simp)
      have hfront := ih fun c hc => h c (by simp [hc])
      obtain ⟨front, hvalue⟩ : ∃ front, front = bytes.foldl addBits value := ⟨_, rfl⟩
      rw [← hvalue] at hfront
      have hquotient : addBits front b / 64 = front := by
        unfold addBits
        omega
      have hbyte : UInt8.ofNat (addBits front b % 64 + 0x80) = b := by
        rw [← UInt8.toNat_inj, toNat_continuationByte]
        unfold addBits
        omega
      rw [List.foldl_append, List.length_append, List.foldl_cons, List.foldl_nil,
        List.length_singleton, continuation, ← hvalue, hquotient, hfront, hbyte]

section Lead

variable {n : Nat}

theorem lead_one (h : n ≤ 0x7F) : leadByte n = n ∧ (shape n).1 = 0 := by
  have hshape : shape n = (0, 0) := if_pos h
  rw [leadByte, hshape]
  simp

theorem lead_two (hlow : 0x7F < n) (hhigh : n ≤ 0x7FF) :
    leadByte n = n / 64 + 0xC0 ∧ (shape n).1 = 1 := by
  have hshape : shape n = (1, 0xC0) := by
    rw [shape, if_neg (by omega), if_pos hhigh]
  rw [leadByte, hshape]
  exact ⟨rfl, rfl⟩

theorem lead_three (hlow : 0x7FF < n) (hhigh : n ≤ 0xFFFF) :
    leadByte n = n / 4096 + 0xE0 ∧ (shape n).1 = 2 := by
  have hshape : shape n = (2, 0xE0) := by
    rw [shape, if_neg (by omega), if_neg (by omega), if_pos hhigh]
  rw [leadByte, hshape]
  exact ⟨rfl, rfl⟩

theorem lead_four (hlow : 0xFFFF < n) : leadByte n = n / 262144 + 0xF0 ∧ (shape n).1 = 3 := by
  have hshape : shape n = (3, 0xF0) := by
    rw [shape, if_neg (by omega), if_neg (by omega), if_neg (by omega)]
  rw [leadByte, hshape]
  exact ⟨rfl, rfl⟩

end Lead

/-- The value is a character's, and its encoding starts with this byte and
goes on with so many more. -/
structure Leads (b : Nat) (length n : Nat) : Prop where
  valid : n.isValidChar
  lead : leadByte n = b
  length : (shape n).1 = length

section Leads

variable {b value : Nat} {c d e : UInt8}

theorem leads_two (hb : b = value + 0xC0) (hlow : 2 ≤ value) (hhigh : value < 32)
    (hc : IsContinuation c) : Leads b 1 ([c].foldl addBits value) := by
  obtain ⟨hc₁, hc₂⟩ := hc
  simp only [List.foldl_cons, List.foldl_nil]
  unfold addBits
  obtain ⟨hlead, hshape⟩ := lead_two (n := value * 64 + (c.toNat - 0x80)) (by omega) (by omega)
  exact ⟨.inl (by omega), by omega, hshape⟩

theorem leads_three (hb : b = value + 0xE0) (hhigh : value < 16) (hc : IsContinuation c)
    (hd : IsContinuation d) (hlow : value = 0 → 0xA0 ≤ c.toNat)
    (hsurrogate : value = 0xD → c.toNat ≤ 0x9F) : Leads b 2 ([c, d].foldl addBits value) := by
  obtain ⟨hc₁, hc₂⟩ := hc
  obtain ⟨hd₁, hd₂⟩ := hd
  simp only [List.foldl_cons, List.foldl_nil]
  unfold addBits
  obtain ⟨hlead, hshape⟩ := lead_three
    (n := (value * 64 + (c.toNat - 0x80)) * 64 + (d.toNat - 0x80)) (by omega) (by omega)
  refine ⟨?_, by omega, hshape⟩
  unfold Nat.isValidChar
  omega

theorem leads_four (hb : b = value + 0xF0) (hhigh : value ≤ 4) (hc : IsContinuation c)
    (hd : IsContinuation d) (he : IsContinuation e) (hlow : value = 0 → 0x90 ≤ c.toNat)
    (hlast : value = 4 → c.toNat ≤ 0x8F) : Leads b 3 ([c, d, e].foldl addBits value) := by
  obtain ⟨hc₁, hc₂⟩ := hc
  obtain ⟨hd₁, hd₂⟩ := hd
  obtain ⟨he₁, he₂⟩ := he
  simp only [List.foldl_cons, List.foldl_nil]
  unfold addBits
  obtain ⟨hlead, hshape⟩ := lead_four
    (n := ((value * 64 + (c.toNat - 0x80)) * 64 + (d.toNat - 0x80)) * 64 + (e.toNat - 0x80))
    (by omega)
  refine ⟨?_, by omega, hshape⟩
  unfold Nat.isValidChar
  omega

end Leads

/-- A leading byte and bytes within the bounds that it sets are what their
value is encoded in. Of three bytes and of four there are three cases each,
by the kinds of leading bytes in `announced_three` and `announced_four`. -/
theorem leads_of_leading {b : UInt8} {value : Nat} {bounds : List (Nat × Nat)}
    {bytes : List UInt8} (h : leading b = some (value, bounds)) (hwithin : Within bounds bytes) :
    Leads b.toNat bytes.length (bytes.foldl addBits value) ∧ ∀ c ∈ bytes, IsContinuation c := by
  have hb := b.toNat_lt
  simp only [leading] at h
  split_ifs at h
  all_goals
    obtain ⟨rfl, rfl⟩ := Prod.mk.inj (Option.some.inj h)
    simp only [Within, List.forall₂_cons_left_iff, List.forall₂_nil_left_iff] at hwithin
  · obtain rfl := hwithin
    have hlead := lead_one (n := b.toNat) (by omega)
    exact ⟨⟨.inl (by rw [List.foldl_nil]; omega), hlead.1, hlead.2⟩, by simp⟩
  · obtain ⟨c, _, hc, rfl, rfl⟩ := hwithin
    exact ⟨leads_two (by omega) (by omega) (by omega) hc, List.forall_mem_singleton.mpr hc⟩
  · obtain ⟨c, _, hc, ⟨d, _, hd, rfl, rfl⟩, rfl⟩ := hwithin
    have hc' : IsContinuation c := ⟨by omega, hc.2⟩
    exact ⟨leads_three (by omega) (by omega) hc' hd (fun _ => hc.1) (by omega),
      List.forall_mem_cons.mpr ⟨hc', List.forall_mem_singleton.mpr hd⟩⟩
  · obtain ⟨c, _, hc, ⟨d, _, hd, rfl, rfl⟩, rfl⟩ := hwithin
    have hc' : IsContinuation c := ⟨hc.1, by omega⟩
    exact ⟨leads_three (by omega) (by omega) hc' hd (by omega) (fun _ => hc.2),
      List.forall_mem_cons.mpr ⟨hc', List.forall_mem_singleton.mpr hd⟩⟩
  · obtain ⟨c, _, hc, ⟨d, _, hd, rfl, rfl⟩, rfl⟩ := hwithin
    exact ⟨leads_three (by omega) (by omega) hc hd (by omega) (by omega),
      List.forall_mem_cons.mpr ⟨hc, List.forall_mem_singleton.mpr hd⟩⟩
  · obtain ⟨c, _, hc, ⟨d, _, hd, ⟨e, _, he, rfl, rfl⟩, rfl⟩, rfl⟩ := hwithin
    have hc' : IsContinuation c := ⟨by omega, hc.2⟩
    exact ⟨leads_four (by omega) (by omega) hc' hd he (fun _ => hc.1) (by omega),
      List.forall_mem_cons.mpr
        ⟨hc', List.forall_mem_cons.mpr ⟨hd, List.forall_mem_singleton.mpr he⟩⟩⟩
  · obtain ⟨c, _, hc, ⟨d, _, hd, ⟨e, _, he, rfl, rfl⟩, rfl⟩, rfl⟩ := hwithin
    exact ⟨leads_four (by omega) (by omega) hc hd he (by omega) (by omega),
      List.forall_mem_cons.mpr
        ⟨hc, List.forall_mem_cons.mpr ⟨hd, List.forall_mem_singleton.mpr he⟩⟩⟩
  · obtain ⟨c, _, hc, ⟨d, _, hd, ⟨e, _, he, rfl, rfl⟩, rfl⟩, rfl⟩ := hwithin
    have hc' : IsContinuation c := ⟨hc.1, by omega⟩
    exact ⟨leads_four (by omega) (by omega) hc' hd he (by omega) (fun _ => hc.2),
      List.forall_mem_cons.mpr
        ⟨hc', List.forall_mem_cons.mpr ⟨hd, List.forall_mem_singleton.mpr he⟩⟩⟩

theorem encodeChar_ofNat {b : UInt8} {bytes : List UInt8} {n : Nat}
    (h : Leads b.toNat bytes.length n) (hbytes : continuation bytes.length n = bytes) :
    String.utf8EncodeChar (Char.ofNat n) = b :: bytes := by
  have hn : (Char.ofNat n).val.toNat = n := by
    rw [Char.ofNat, dif_pos h.valid]
    rfl
  rw [encodeChar_eq, hn, h.lead, h.length, hbytes, UInt8.ofNat_toNat]

/-- Bytes that decode to characters are their encoding. A stray run among
them would be no character. -/
theorem eq_encodeChars_of_decode {bytes : List UInt8} {text : List Char}
    (h : decode bytes = text.map .char) : bytes = encodeChars text := by
  fun_induction decode bytes generalizing text with
  | case1 =>
      obtain rfl : text = [] := List.map_eq_nil_iff.mp h.symm
      rfl
  | case2 b rest hnone ih =>
      cases text <;> simp at h
  | case3 b rest value bounds hleading step =>
      rename_i ih
      cases text with
      | nil => cases h
      | cons c text =>
          rw [List.map_cons, List.cons.injEq] at h
          obtain ⟨hchar, hrest⟩ := h
          obtain ⟨⟨n, taken, left, rest'⟩, hstep⟩ : ∃ s, follow value 1 bounds rest = s := ⟨_, rfl⟩
          simp only [step, hstep] at hchar hrest ih
          split_ifs at hchar with hleft
          obtain rfl := List.isEmpty_iff.mp hleft
          obtain ⟨bytes, rfl, hwithin, rfl⟩ := follow_eq hstep
          obtain ⟨hleads, hcontinuation⟩ := leads_of_leading hleading hwithin
          obtain rfl := Piece.char.inj hchar
          rw [encodeChars_cons, encodeChar_ofNat hleads (continuation_foldl hcontinuation value),
            ih hrest, List.cons_append]

/-- Bytes are a text exactly if they are what the text is encoded in. -/
theorem text?_eq_some_iff {bytes : List UInt8} {s : String} :
    text? bytes = some s ↔ bytes = encode s := by
  constructor
  · intro h
    obtain ⟨text, hmapM, rfl⟩ := Option.map_eq_some_iff.mp h
    rw [encode, String.toList_ofList]
    exact eq_encodeChars_of_decode (mapM_char?_eq_some_iff.mp hmapM)
  · rintro rfl
    exact text?_encode s

/-! ## Bytes of ASCII text -/

/-- The byte of an ASCII character. -/
def asciiByte (c : Char) : UInt8 := UInt8.ofNat c.toNat

theorem encodeChar_ascii {c : Char} (h : c.toNat < 0x80) :
    String.utf8EncodeChar c = [asciiByte c] := by
  have hle : c.val.toNat ≤ 0x7F := Nat.le_of_lt_succ h
  simp only [String.utf8EncodeChar, hle, if_true]
  rfl

theorem encodeChars_append (a b : List Char) :
    encodeChars (a ++ b) = encodeChars a ++ encodeChars b := List.flatMap_append ..

theorem asciiByte_inj {c d : Char} (hc : c.toNat < 0x80) (hd : d.toNat < 0x80) :
    asciiByte c = asciiByte d ↔ c = d := by
  refine ⟨fun h => ?_, fun h => h ▸ rfl⟩
  have hnat := congrArg UInt8.toNat h
  rw [asciiByte, asciiByte, UInt8.toNat_ofNat', UInt8.toNat_ofNat'] at hnat
  rw [← Char.ofNat_toNat c, ← Char.ofNat_toNat d]
  congr 1
  omega

end Utf8

end UploadHooks
