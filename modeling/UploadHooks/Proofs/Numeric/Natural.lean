import Mathlib.Algebra.Group.Nat.Defs
import Mathlib.Data.List.Basic
import Mathlib.Data.List.Induction
import UploadHooks.Numeric.Natural
import UploadHooks.Proofs.Text.Trim

/-!
# Which texts are natural numbers

`IsNatural` is the notation on its own: an optional plus sign, then digits,
at least one, whose value keeps to the limit. The reader checks the limit
digit by digit; since a further digit never makes a value smaller, that
comes to the same as checking the value in the end (`readUpTo_eq_ok_iff`).
-/

namespace UploadHooks

namespace Numeric

/-- The number that digits stand for. -/
def valueOf (digits : List Char) : Nat := Nat.ofDigitChars 10 digits 0

def AllDigits (s : List Char) : Prop := ∀ c ∈ s, c.isDigit = true

instance (s : List Char) : Decidable (AllDigits s) :=
  decidable_of_iff (s.all Char.isDigit = true) List.all_eq_true

/-- The text is that number, written with digits after an optional plus
sign, and the number is within the limit. -/
def IsNatural (limit : Nat) (text : List Char) (n : Nat) : Prop :=
  ∃ sign digits, (sign = [] ∨ sign = ['+']) ∧ text = sign ++ digits ∧ digits ≠ [] ∧
    AllDigits digits ∧ valueOf digits = n ∧ n ≤ limit

/-! ## Values of digits -/

theorem valueOf_append (front back : List Char) :
    valueOf (front ++ back) = valueOf front * 10 ^ back.length + valueOf back := by
  rw [valueOf, Nat.ofDigitChars_append, Nat.ofDigitChars_eq_ofDigitChars_zero, Nat.mul_comm]
  rfl

theorem le_ofDigitChars (digits : List Char) (acc : Nat) :
    acc ≤ Nat.ofDigitChars 10 digits acc := by
  induction digits generalizing acc with
  | nil => exact Nat.le_refl acc
  | cons c digits ih =>
      rw [Nat.ofDigitChars_cons]
      have hgrow := ih (10 * acc + (c.toNat - '0'.toNat))
      omega

theorem digitsValue_eq (digits : List Char) : digitsValue digits = valueOf digits := by
  have hstep : (fun (n : Nat) (c : Char) => n * 10 + digitValue c) =
      fun n c => 10 * n + (c.toNat - '0'.toNat) := by
    funext n c
    rw [Nat.mul_comm]
    rfl
  rw [digitsValue, valueOf, hstep]
  rfl

theorem AllDigits.cons_iff {c : Char} {s : List Char} :
    AllDigits (c :: s) ↔ c.isDigit = true ∧ AllDigits s :=
  List.forall_mem_cons

theorem AllDigits.append {front back : List Char} (hfront : AllDigits front)
    (hback : AllDigits back) : AllDigits (front ++ back) :=
  List.forall_mem_append.mpr ⟨hfront, hback⟩

theorem plus_not_isDigit : Char.isDigit '+' = false := rfl

/-! ## Canonical digits -/

theorem digitChar_of_isDigit {c : Char} (h : c.isDigit = true) :
    Nat.digitChar (c.toNat - '0'.toNat) = c := by
  obtain ⟨hlow, hhigh⟩ : 48 ≤ c.toNat ∧ c.toNat ≤ 57 := by
    simpa [Char.isDigit, UInt32.le_iff_toNat_le] using h
  have hchar : ∀ n < 58, 48 ≤ n → Nat.digitChar (n - '0'.toNat) = Char.ofNat n := by decide
  rw [hchar c.toNat (Nat.lt_succ_of_le hhigh) hlow, Char.ofNat_toNat]

theorem digit_lt_ten {c : Char} (h : c.isDigit = true) : c.toNat - '0'.toNat < 10 := by
  obtain ⟨-, hhigh⟩ : 48 ≤ c.toNat ∧ c.toNat ≤ 57 := by
    simpa [Char.isDigit, UInt32.le_iff_toNat_le] using h
  have hzero : '0'.toNat = 48 := rfl
  omega

theorem digit_ne_zero {c : Char} (h : c.isDigit = true) (hc : c ≠ '0') :
    c.toNat - '0'.toNat ≠ 0 := by
  intro hzero
  have hchar := digitChar_of_isDigit h
  rw [hzero] at hchar
  exact hc hchar.symm

theorem valueOf_singleton (c : Char) : valueOf [c] = c.toNat - '0'.toNat := by
  rw [valueOf, Nat.ofDigitChars_cons, Nat.ofDigitChars_nil, Nat.mul_zero, Nat.zero_add]

theorem valueOf_concat (digits : List Char) (c : Char) :
    valueOf (digits ++ [c]) = valueOf digits * 10 + (c.toNat - '0'.toNat) := by
  rw [valueOf_append, valueOf_singleton, List.length_singleton, Nat.pow_one]

theorem valueOf_replicate_zero (n : Nat) : valueOf (List.replicate n '0') = 0 := by
  rw [valueOf, Nat.ofDigitChars_replicate_zero, Nat.mul_zero]

theorem valueOf_pos {c : Char} {digits : List Char} (h : AllDigits (c :: digits)) (hc : c ≠ '0') :
    0 < valueOf (c :: digits) := by
  have hdigit := digit_ne_zero (AllDigits.cons_iff.mp h).1 hc
  rw [← List.singleton_append, valueOf_append, valueOf_singleton]
  have hpow := Nat.pow_pos (n := digits.length) (by decide : 0 < 10)
  have hprod := Nat.mul_pos (Nat.pos_of_ne_zero hdigit) hpow
  omega

/-- A number is written as the digits it was read from, if these have no
leading zero. -/
theorem toDigits_valueOf {digits : List Char} (h : AllDigits digits) (hne : digits ≠ [])
    (hhead : digits.head? ≠ some '0') : Nat.toDigits 10 (valueOf digits) = digits := by
  obtain ⟨c, digits, rfl⟩ := List.exists_cons_of_ne_nil hne
  have hc : c ≠ '0' := by simpa using hhead
  clear hne hhead
  induction digits using List.reverseRecOn with
  | nil =>
      have hdigit := (AllDigits.cons_iff.mp h).1
      rw [valueOf_singleton, Nat.toDigits_of_lt_base (digit_lt_ten hdigit),
        digitChar_of_isDigit hdigit]
  | append_singleton digits d ih =>
      have hfront : AllDigits (c :: digits) := fun x hx =>
        h x (by rw [← List.cons_append]; exact List.mem_append_left _ hx)
      have hd : d.isDigit = true := h d (by simp)
      rw [← List.cons_append, valueOf_concat, Nat.mul_comm,
        ← Nat.toDigits_append_toDigits (by decide) (valueOf_pos hfront hc) (digit_lt_ten hd),
        ih hfront, Nat.toDigits_of_lt_base (digit_lt_ten hd), digitChar_of_isDigit hd]

/-! ## Zeros at the ends -/

theorem valueOf_zeros_append (zeros : Nat) (digits : List Char) :
    valueOf (List.replicate zeros '0' ++ digits) = valueOf digits := by
  rw [valueOf_append, valueOf_replicate_zero, Nat.zero_mul, Nat.zero_add]

theorem valueOf_append_zeros (digits : List Char) (zeros : Nat) :
    valueOf (digits ++ List.replicate zeros '0') = valueOf digits * 10 ^ zeros := by
  rw [valueOf_append, valueOf_replicate_zero, List.length_replicate, Nat.add_zero]

theorem exists_leading_zeros (digits : List Char) : ∃ zeros rest,
    digits = List.replicate zeros '0' ++ rest ∧ rest.head? ≠ some '0' := by
  have hzero : ∀ c ∈ digits.takeWhile (· == '0'), c = '0' := fun c hc => by
    simpa using List.mem_takeWhile_imp hc
  refine ⟨(digits.takeWhile (· == '0')).length, digits.dropWhile (· == '0'), ?_, fun hhead => ?_⟩
  · rw [← List.eq_replicate_of_mem hzero, List.takeWhile_append_dropWhile]
  · have hnot := List.head?_dropWhile_not (· == '0') digits
    rw [hhead] at hnot
    simp at hnot

theorem eq_zeros_of_valueOf_eq_zero {digits : List Char} (h : AllDigits digits)
    (hvalue : valueOf digits = 0) : ∃ zeros, digits = List.replicate zeros '0' := by
  obtain ⟨zeros, rest, rfl, hhead⟩ := exists_leading_zeros digits
  rw [valueOf_zeros_append] at hvalue
  cases rest with
  | nil => exact ⟨zeros, List.append_nil _⟩
  | cons c rest =>
      have hrest : AllDigits (c :: rest) := fun d hd => h d (List.mem_append_right _ hd)
      have hpos := valueOf_pos hrest (by simpa using hhead)
      omega

theorem exists_trailing_zeros (digits : List Char) : ∃ front zeros,
    digits = front ++ List.replicate zeros '0' ∧ front.getLast? ≠ some '0' := by
  obtain ⟨zeros, rest, hrest, hhead⟩ := exists_leading_zeros digits.reverse
  refine ⟨rest.reverse, zeros, ?_, by rwa [List.getLast?_reverse]⟩
  rw [← List.reverse_inj, hrest, List.reverse_append, List.reverse_reverse,
    List.reverse_replicate]

theorem valueOf_mod_ten {digits : List Char} (h : AllDigits digits) (hne : digits ≠ [])
    (hlast : digits.getLast? ≠ some '0') : valueOf digits % 10 ≠ 0 := by
  obtain ⟨front, d, rfl⟩ := List.eq_nil_or_concat' digits |>.resolve_left hne
  have hd : d.isDigit = true := h d (by simp)
  have hdigit := digit_ne_zero hd (by simpa using hlast)
  have hsmall := digit_lt_ten hd
  rw [valueOf_concat]
  omega

/-- Zeros at the end make another number, unless there is nothing before
them. -/
theorem valueOf_eq_mul_pow_iff {digits : List Char} (h : AllDigits digits)
    (hlast : digits.getLast? ≠ some '0') {zeros : Nat} :
    valueOf digits = valueOf digits * 10 ^ zeros ↔ digits = [] ∨ zeros = 0 := by
  constructor
  · intro heq
    by_cases hne : digits = []
    · exact .inl hne
    · have hmod := valueOf_mod_ten h hne hlast
      refine .inr (Nat.eq_zero_of_not_pos fun hpos => ?_)
      obtain ⟨zeros, rfl⟩ := Nat.exists_eq_succ_of_ne_zero (Nat.pos_iff_ne_zero.mp hpos)
      rw [heq, Nat.pow_succ, ← Nat.mul_assoc, Nat.mul_mod_left] at hmod
      exact hmod rfl
  · rintro (rfl | rfl)
    · exact (Nat.zero_mul _).symm
    · rw [Nat.pow_zero, Nat.mul_one]

/-! ## Reading -/

/-- Digits can be refused as soon as the limit is passed, because the value
only grows from there. -/
theorem readDigits_eq_ok_iff {limit acc n : Nat} (hacc : acc ≤ limit) {digits : List Char} :
    readDigits limit acc digits = .ok n ↔
      AllDigits digits ∧ Nat.ofDigitChars 10 digits acc = n ∧ n ≤ limit := by
  induction digits generalizing acc with
  | nil =>
      simp only [readDigits, Except.ok.injEq, AllDigits, List.not_mem_nil, false_imp_iff,
        implies_true, true_and, Nat.ofDigitChars_nil]
      exact ⟨fun h => ⟨h, h ▸ hacc⟩, fun h => h.1⟩
  | cons c digits ih =>
      rw [readDigits, AllDigits.cons_iff, Nat.ofDigitChars_cons]
      have hnext : acc * 10 + digitValue c = 10 * acc + (c.toNat - '0'.toNat) := by
        rw [Nat.mul_comm]
        rfl
      cases hc : c.isDigit with
      | false => simp
      | true =>
          simp only [if_true, hnext, true_and]
          by_cases hle : 10 * acc + (c.toNat - '0'.toNat) ≤ limit
          · rw [if_pos hle]
            exact ih hle
          · rw [if_neg hle]
            have hgrow := le_ofDigitChars digits (10 * acc + (c.toNat - '0'.toNat))
            constructor
            · intro h
              cases h
            · rintro ⟨-, hvalue, hlimit⟩
              omega

/-- A text that does not start with a plus sign is read as digits. -/
theorem readUpTo_of_ne_plus (limit : Nat) {c : Char} (h : c ≠ '+') (rest : List Char) :
    readUpTo limit (c :: rest) = readDigits limit 0 (c :: rest) := by
  rw [readUpTo]
  · simp
  · intro hsign
    exact h (List.cons.inj hsign).1
  · intro digits hsign
    exact h (List.cons.inj hsign).1

theorem readUpTo_plus (limit : Nat) {digits : List Char} (h : digits ≠ []) :
    readUpTo limit ('+' :: digits) = readDigits limit 0 digits := by
  rw [readUpTo]
  exact h

/-- The reader takes exactly the texts that are natural numbers within the
limit. -/
theorem readUpTo_eq_ok_iff {limit n : Nat} {text : List Char} :
    readUpTo limit text = .ok n ↔ IsNatural limit text n := by
  constructor
  · intro h
    cases text with
    | nil => simp [readUpTo] at h
    | cons c rest =>
        by_cases hplus : c = '+'
        · subst hplus
          have hrest : rest ≠ [] := by
            rintro rfl
            simp [readUpTo] at h
          rw [readUpTo_plus limit hrest] at h
          obtain ⟨hdigits, hvalue, hlimit⟩ := (readDigits_eq_ok_iff (Nat.zero_le _)).mp h
          exact ⟨['+'], rest, .inr rfl, rfl, hrest, hdigits, hvalue, hlimit⟩
        · rw [readUpTo_of_ne_plus limit hplus] at h
          obtain ⟨hdigits, hvalue, hlimit⟩ := (readDigits_eq_ok_iff (Nat.zero_le _)).mp h
          exact ⟨[], c :: rest, .inl rfl, rfl, by simp, hdigits, hvalue, hlimit⟩
  · rintro ⟨sign, digits, rfl | rfl, rfl, hne, hdigits, hvalue, hlimit⟩
    · obtain ⟨c, rest, rfl⟩ := List.exists_cons_of_ne_nil hne
      have hc : c ≠ '+' := by
        rintro rfl
        exact absurd (hdigits '+' (List.mem_cons_self ..)) (by simp [plus_not_isDigit])
      show readUpTo limit (c :: rest) = .ok n
      rw [readUpTo_of_ne_plus limit hc]
      exact (readDigits_eq_ok_iff (Nat.zero_le _)).mpr ⟨hdigits, hvalue, hlimit⟩
    · show readUpTo limit ('+' :: digits) = .ok n
      rw [readUpTo_plus limit hne]
      exact (readDigits_eq_ok_iff (Nat.zero_le _)).mpr ⟨hdigits, hvalue, hlimit⟩

theorem IsNatural.le {limit n : Nat} {text : List Char} (h : IsNatural limit text n) :
    n ≤ limit := by
  obtain ⟨-, -, -, -, -, -, -, hle⟩ := h
  exact hle

/-- Only digits and a sign stand in a number. -/
theorem IsNatural.mem_cases {limit n : Nat} {text : List Char} (h : IsNatural limit text n)
    {c : Char} (hc : c ∈ text) : c = '+' ∨ c.isDigit = true := by
  obtain ⟨sign, digits, hsign, rfl, -, hdigits, -, -⟩ := h
  rcases List.mem_append.mp hc with hc | hc
  · rcases hsign with rfl | rfl
    · cases hc
    · exact .inl (List.mem_singleton.mp hc)
  · exact .inr (hdigits c hc)

theorem IsNatural.clean {limit n : Nat} {text : List Char} (h : IsNatural limit text n) :
    ∀ c ∈ text, Text.isBlank c = false := by
  intro c hc
  rcases h.mem_cases hc with rfl | hdigit
  · rfl
  · exact Text.isBlank_of_isDigit hdigit

/-- Around the number there may be blanks, which a reader drops. -/
theorem readUpTo_trim_eq_ok_iff {limit n : Nat} {text : List Char} :
    readUpTo limit (Text.trim text) = .ok n ↔
      ∃ core, Text.Padded core text ∧ IsNatural limit core n := by
  rw [readUpTo_eq_ok_iff, Text.exists_padded_iff]
  exact fun core h => h.clean

theorem IsNatural.unique {limit n m : Nat} {text : List Char} (h : IsNatural limit text n)
    (h' : IsNatural limit text m) : n = m :=
  Except.ok.inj ((readUpTo_eq_ok_iff.mpr h).symm.trans (readUpTo_eq_ok_iff.mpr h'))

end Numeric

end UploadHooks
