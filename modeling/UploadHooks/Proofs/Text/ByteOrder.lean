import UploadHooks.Text.Utf8

/-!
# The order of texts is the order of their bytes

Texts are compared code point by code point. UTF-8 is made so that this is
also the order of the encoded bytes. A character is written as a leading
byte and continuation bytes that hold six bits each; its leading byte
grows with the code point, also from one length to the next
(`leadByte_le`), and under one leading byte the continuation bytes are
the digits of the code point (`continuation_append_lt`). So two encodings
differ at a byte that both of them have, and what follows has no say.
-/

namespace UploadHooks

namespace Utf8

/-! ## Bytes of a character -/

theorem ofNat_lt_ofNat {m n : Nat} (h : m < n) (hn : n < 256) : UInt8.ofNat m < UInt8.ofNat n := by
  rw [UInt8.lt_iff_toNat_lt, UInt8.toNat_ofNat', UInt8.toNat_ofNat']
  omega

/-- The last `k` digits of a number to the base 64, as continuation bytes. -/
def continuation : Nat → Nat → List UInt8
  | 0, _ => []
  | k + 1, n => continuation k (n / 64) ++ [UInt8.ofNat (n % 64 + 0x80)]

/-- How many continuation bytes a code point takes, and the mark in its
leading byte. -/
def shape (n : Nat) : Nat × Nat :=
  if n ≤ 0x7F then (0, 0)
  else if n ≤ 0x7FF then (1, 0xC0)
  else if n ≤ 0xFFFF then (2, 0xE0)
  else (3, 0xF0)

def leadByte (n : Nat) : Nat := n / Nat.pow 64 (shape n).1 + (shape n).2

theorem codePoint_lt (c : Char) : c.val.toNat < 0x110000 := by
  have hvalid := c.valid
  simp only [UInt32.isValidChar, Nat.isValidChar] at hvalid
  omega

theorem encodeChar_eq (c : Char) : String.utf8EncodeChar c =
    UInt8.ofNat (leadByte c.val.toNat) :: continuation (shape c.val.toNat).1 c.val.toNat := by
  have hc := codePoint_lt c
  unfold String.utf8EncodeChar leadByte shape
  generalize c.val.toNat = n at *
  dsimp only
  split
  · simp [continuation]
  · split
    · have hlead : n / 64 % 32 = n / 64 := Nat.mod_eq_of_lt (by omega)
      simp [continuation, hlead]
    · split
      · have hlead : n / 4096 % 16 = n / 4096 := Nat.mod_eq_of_lt (by omega)
        simp [continuation, hlead]
      · have hlead : n / 262144 % 8 = n / 262144 := Nat.mod_eq_of_lt (by omega)
        simp [continuation, Nat.div_div_eq_div_mul, hlead]

theorem leadByte_lt {n : Nat} (hn : n < 0x110000) : leadByte n < 256 := by
  simp only [leadByte, shape]
  repeat' split
  all_goals simp only [Nat.pow_eq, Nat.reducePow]; omega

/-- The leading byte grows with the code point. -/
theorem leadByte_le {m n : Nat} (h : m < n) : leadByte m ≤ leadByte n := by
  simp only [leadByte, shape]
  repeat' split
  all_goals simp only [Nat.pow_eq, Nat.reducePow]; omega

/-- The leading byte tells how many bytes follow it. -/
theorem shape_eq {m n : Nat} (h : leadByte m = leadByte n) : shape m = shape n := by
  revert h
  simp only [leadByte, shape]
  repeat' split
  all_goals simp only [Nat.pow_eq, Nat.reducePow, Prod.mk.injEq, implies_true]
  all_goals omega

/-! ## Order -/

/-- Numbers that differ in their last digits only are told apart by them. -/
theorem continuation_append_lt {k m n : Nat} (h : m < n)
    (hhigh : m / Nat.pow 64 k = n / Nat.pow 64 k) (xs ys : List UInt8) :
    continuation k m ++ xs < continuation k n ++ ys := by
  induction k generalizing m n xs ys with
  | zero => simp at hhigh; omega
  | succ k ih =>
      simp only [continuation, List.append_assoc, List.singleton_append]
      rw [Nat.pow_eq, Nat.pow_succ', ← Nat.div_div_eq_div_mul, ← Nat.div_div_eq_div_mul] at hhigh
      rcases Nat.lt_or_ge (m / 64) (n / 64) with hlt | hge
      · exact ih hlt hhigh _ _
      · have heq : m / 64 = n / 64 := Nat.le_antisymm (Nat.div_le_div_right (Nat.le_of_lt h)) hge
        rw [heq]
        refine List.append_left_lt ?_
        exact List.cons_lt_cons_iff.mpr (.inl (ofNat_lt_ofNat (by omega) (by omega)))

theorem encodeChar_append_lt {c d : Char} (h : c < d) (xs ys : List UInt8) :
    String.utf8EncodeChar c ++ xs < String.utf8EncodeChar d ++ ys := by
  have hlt : c.val.toNat < d.val.toNat := h
  have hbyte := leadByte_lt (codePoint_lt d)
  rw [encodeChar_eq, encodeChar_eq]
  rcases Nat.lt_or_eq_of_le (leadByte_le hlt) with hlead | hlead
  · exact List.cons_lt_cons_iff.mpr (.inl (ofNat_lt_ofNat hlead hbyte))
  · have hsame := shape_eq hlead
    have hhigh : c.val.toNat / Nat.pow 64 (shape d.val.toNat).1 =
        d.val.toNat / Nat.pow 64 (shape d.val.toNat).1 := by
      rw [leadByte, leadByte, hsame] at hlead
      exact Nat.add_right_cancel hlead
    rw [hlead, hsame]
    exact List.cons_lt_cons_iff.mpr (.inr ⟨rfl, continuation_append_lt hlt hhigh xs ys⟩)

theorem encodeChars_lt {a b : List Char} (h : a < b) : encodeChars a < encodeChars b := by
  induction h with
  | @nil c cs =>
      simp only [encodeChars, List.flatMap_nil, List.flatMap_cons, encodeChar_eq, List.cons_append]
      exact List.nil_lt_cons ..
  | rel hcd => exact encodeChar_append_lt hcd _ _
  | cons _ ih => exact List.append_left_lt ih

/-- Code points and bytes put texts in the same order. -/
theorem encode_lt_iff {a b : String} : encode a < encode b ↔ a < b := by
  refine ⟨fun h => ?_, fun h => encodeChars_lt (String.lt_iff.mp h)⟩
  apply Classical.byContradiction
  intro hlt
  rcases List.le_iff_lt_or_eq.mp (String.not_lt.mp hlt) with hba | heq
  · exact List.lt_asymm h (encodeChars_lt hba)
  · rw [encode, encode, heq] at h
    exact List.lt_irrefl _ h

end Utf8

end UploadHooks
