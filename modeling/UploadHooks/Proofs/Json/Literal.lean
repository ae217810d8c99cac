import UploadHooks.Proofs.Json.Number
import UploadHooks.Proofs.Json.RoundTrip

/-!
# Number literals

`IsNumber` is the notation of numbers on its own. Of the literals without
sign and exponent this says what the reader makes of them, wherever a value
may end behind them: a whole number that fits 64 bits is kept as it is, and
with digits behind the point it is a floating-point number, always
(`exists_stands_decimal`). As long as all digits fit 64 bits they are the
significand that is scaled; beyond that only some of them are.
-/

namespace UploadHooks

namespace Json

open Numeric Utf8

/-! ## Notation -/

/-- Nothing, or a point and at least one digit. -/
def IsFraction (text : List Char) : Prop :=
  text = [] ∨ ∃ digits, text = '.' :: digits ∧ digits ≠ [] ∧ AllDigits digits

/-- A number: an optional minus sign, the whole part, and at will a fraction
and an exponent. -/
def IsNumber (text : List Char) : Prop :=
  ∃ sign whole fraction exponent e, (sign = [] ∨ sign = ['-']) ∧ IsWholePart whole ∧
    IsFraction fraction ∧ IsExponent exponent e ∧ text = sign ++ (whole ++ (fraction ++ exponent))

theorem isNumber_decimal {text whole digits : List Char} (htext : text = whole ++ '.' :: digits)
    (hwhole : IsWholePart whole) (hne : digits ≠ []) (hdigits : AllDigits digits) :
    IsNumber text :=
  ⟨[], whole, '.' :: digits, [], 0, .inl rfl, hwhole, .inr ⟨digits, rfl, hne, hdigits⟩,
    .inl ⟨rfl, rfl⟩, by simp [htext]⟩

/-! ## What follows a number -/

theorem Ends.head {p : Piece} {s : List Piece} (h : Ends (p :: s)) :
    digit? p = none ∧ isExponentMark p = false ∧ p ≠ .char '.' := by
  have hp : p ∈ [.char ' ', .char '\n', .char '\t', .char '\r', .char ',', .char ']',
      .char '\x7d'] := by
    rcases h p rfl with hblank | hclose
    · cases p with
      | stray b => cases hblank
      | char c =>
          simp only [isBlankPiece, Bool.or_eq_true, beq_iff_eq] at hblank
          rcases hblank with ((rfl | rfl) | rfl) | rfl <;> decide
    · exact List.mem_append_right [.char ' ', .char '\n', .char '\t', .char '\r'] hclose
  clear h
  revert p
  decide

theorem Ends.noDigit {rest : List Piece} (h : Ends rest) : startsWithDigit rest = false := by
  cases rest with
  | nil => rfl
  | cons p s => rw [startsWithDigit, h.head.1, Option.isSome_none]

/-! ## Digits -/

section Digits

variable {limit acc taken : ℕ} {c : Char} {digits : List Char} {rest : List Piece}

theorem digit?_of_isDigit (h : c.isDigit = true) :
    digit? (.char c) = some (c.toNat - '0'.toNat) := by
  rw [digit?, if_pos h, digitValue]

theorem takeDigits_stop (limit acc taken : ℕ) (h : startsWithDigit rest = false) :
    takeDigits limit acc taken rest = (acc, taken, rest) := by
  cases rest with
  | nil => rfl
  | cons p s =>
      rw [startsWithDigit, Option.isSome_eq_false_iff, Option.isNone_iff_eq_none] at h
      rw [takeDigits, h]

/-- The first digits are taken, as many of them whatever follows, and all of
them if their number fits. -/
theorem exists_takeDigits (hdigits : AllDigits digits) (hacc : acc ≤ limit) :
    ∃ front more, digits = front ++ more ∧ Nat.ofDigitChars 10 front acc ≤ limit ∧
      (Nat.ofDigitChars 10 digits acc ≤ limit → more = []) ∧
      ∀ taken rest, startsWithDigit rest = false →
        takeDigits limit acc taken (piecesOf digits ++ rest) =
          (Nat.ofDigitChars 10 front acc, taken + front.length, piecesOf more ++ rest) := by
  induction digits generalizing acc with
  | nil =>
      exact ⟨[], [], rfl, hacc, fun _ => rfl, fun taken rest hrest =>
        takeDigits_stop limit acc taken hrest⟩
  | cons c digits ih =>
      obtain ⟨hc, htail⟩ := AllDigits.cons_iff.mp hdigits
      have hnext : 10 * acc + (c.toNat - '0'.toNat) = acc * 10 + (c.toNat - '0'.toNat) := by
        rw [Nat.mul_comm]
      by_cases hle : acc * 10 + (c.toNat - '0'.toNat) ≤ limit
      · obtain ⟨front, more, hsplit, hfront, hall, hread⟩ := ih htail hle
        refine ⟨c :: front, more, congrArg (c :: ·) hsplit, ?_, ?_, fun taken rest hrest => ?_⟩
        · rwa [Nat.ofDigitChars_cons, hnext]
        · rwa [Nat.ofDigitChars_cons, hnext]
        · have hcount : taken + 1 + front.length = taken + (c :: front).length := by
            rw [List.length_cons]
            omega
          rw [piecesOf_cons, List.cons_append, takeDigits, digit?_of_isDigit hc,
            Nat.ofDigitChars_cons, hnext]
          simp only [hle, if_true]
          rw [hread (taken + 1) rest hrest, hcount]
      · refine ⟨[], c :: digits, rfl, hacc, fun hfits => ?_, fun taken rest hrest => ?_⟩
        · rw [Nat.ofDigitChars_cons, hnext] at hfits
          exact absurd ((le_ofDigitChars digits _).trans hfits) hle
        · rw [piecesOf_cons, List.cons_append, takeDigits, digit?_of_isDigit hc]
          simp only [hle, if_false]
          rfl

/-- All digits are taken if their number fits. -/
theorem takeDigits_of_le (hdigits : AllDigits digits)
    (hfits : Nat.ofDigitChars 10 digits acc ≤ limit) (hrest : startsWithDigit rest = false) :
    takeDigits limit acc taken (piecesOf digits ++ rest) =
      (Nat.ofDigitChars 10 digits acc, taken + digits.length, rest) := by
  obtain ⟨front, more, rfl, -, hall, hread⟩ :=
    exists_takeDigits hdigits ((le_ofDigitChars digits acc).trans hfits)
  obtain rfl := hall hfits
  simpa using hread taken rest hrest

theorem skipDigits_snd (hdigits : AllDigits digits) (hrest : startsWithDigit rest = false) :
    (skipDigits (piecesOf digits ++ rest)).2 = rest := by
  have hall : ∀ p ∈ piecesOf digits, (digit? p).isSome = true := by
    intro p hp
    obtain ⟨c, hc, rfl⟩ := List.mem_map.mp hp
    rw [digit?_of_isDigit (hdigits c hc), Option.isSome_some]
  simp only [skipDigits, List.dropWhile_append_of_pos hall]
  cases rest with
  | nil => rfl
  | cons p s =>
      rw [startsWithDigit] at hrest
      exact List.dropWhile_cons_of_neg (by simp [hrest])

end Digits

/-! ## Reading -/

section Reading

variable {whole digits : List Char} {rest : List Piece} {n : ℕ}

theorem readTail_of_ends (negative : Bool) (n : ℕ) (e : ℤ) (h : Ends rest) :
    readTail negative n e rest = finish negative n e rest := by
  cases rest with
  | nil => rfl
  | cons p s =>
      rw [readTail, h.head.2.1]
      rfl

/-- Digits behind the point that no longer fit are dropped, and the others
are scaled. -/
theorem exists_readFraction (negative : Bool) (hdigits : AllDigits digits) (hne : digits ≠ [])
    (hn : n ≤ max64) :
    ∃ front more x, digits = front ++ more ∧ Nat.ofDigitChars 10 front n ≤ max64 ∧
      (Nat.ofDigitChars 10 digits n ≤ max64 → more = []) ∧
      Number.ofScaled negative (Nat.ofDigitChars 10 front n) (-front.length) =
        some (.float x) ∧
      ∀ rest, Ends rest →
        readFraction negative n 0 (piecesOf digits ++ rest) = .ok (.float x, rest) := by
  obtain ⟨front, more, rfl, hfront, hall, hread⟩ := exists_takeDigits hdigits hn
  obtain ⟨x, hx⟩ := Number.exists_ofScaled negative hfront
    (by omega : (-front.length : ℤ) ≤ 0)
  refine ⟨front, more, x, rfl, hfront, hall, hx, fun rest hrest => ?_⟩
  have htail : readTail negative (Nat.ofDigitChars 10 front n) (0 - (0 + front.length : ℕ)) rest =
      .ok (.float x, rest) := by
    rw [readTail_of_ends _ _ _ hrest, finish, Nat.zero_add, zero_sub, hx]
  rw [readFraction, hread 0 rest hrest.noDigit]
  cases more with
  | nil =>
      rw [List.append_nil] at hne
      have hpos := List.length_pos_iff.mpr hne
      have htaken : 0 + front.length ≠ 0 := by omega
      simp only [piecesOf_nil, List.nil_append, hrest.noDigit, Bool.false_eq_true, htaken,
        if_false]
      exact htail
  | cons c more =>
      have hmore : AllDigits (c :: more) := fun d hd => hdigits d (List.mem_append_right _ hd)
      have hstarts : startsWithDigit (piecesOf (c :: more) ++ rest) = true := by
        rw [piecesOf_cons, List.cons_append, startsWithDigit,
          digit?_of_isDigit (AllDigits.cons_iff.mp hmore).1, Option.isSome_some]
      simp only [hstarts, if_true, skipDigits_snd hmore hrest.noDigit]
      exact htail

/-- The digits of the whole part are all taken, the first one apart. -/
theorem IsWholePart.takeDigits (hwhole : IsWholePart whole) (hfits : valueOf whole ≤ max64) :
    ∃ c digits, whole = c :: digits ∧ c.isDigit = true ∧
      ∀ rest, startsWithDigit rest = false →
        ¬ (c.toNat - '0'.toNat = 0 ∧ startsWithDigit (piecesOf digits ++ rest) = true) ∧
        Json.takeDigits max64 (c.toNat - '0'.toNat) 0 (piecesOf digits ++ rest) =
          (valueOf whole, digits.length, rest) := by
  obtain ⟨c, digits, rfl⟩ := List.exists_cons_of_ne_nil hwhole.ne_nil
  obtain ⟨hc, hdigits⟩ := AllDigits.cons_iff.mp hwhole.allDigits
  have hvalue : valueOf (c :: digits) = Nat.ofDigitChars 10 digits (c.toNat - '0'.toNat) := by
    rw [valueOf, Nat.ofDigitChars_cons, Nat.mul_zero, Nat.zero_add]
  refine ⟨c, digits, rfl, hc, fun rest hrest => ⟨?_, ?_⟩⟩
  · rintro ⟨hzero, hstarts⟩
    rcases hwhole with hwhole | ⟨-, -, hhead⟩
    · obtain ⟨rfl, rfl⟩ := List.cons.inj hwhole
      rw [piecesOf_nil, List.nil_append, hrest] at hstarts
      cases hstarts
    · exact digit_ne_zero hc (by simpa using hhead) hzero
  · rw [hvalue] at hfits ⊢
    rw [takeDigits_of_le hdigits hfits hrest, Nat.zero_add]

theorem readUnsigned_of_point (negative : Bool) (hwhole : IsWholePart whole)
    (hfits : valueOf whole ≤ max64) (s : List Piece) :
    readUnsigned negative (piecesOf whole ++ .char '.' :: s) =
      readFraction negative (valueOf whole) 0 s := by
  obtain ⟨c, digits, rfl, hc, htake⟩ := hwhole.takeDigits hfits
  obtain ⟨hzero, htaken⟩ := htake (.char '.' :: s) rfl
  have hpoint : startsWithDigit (.char '.' :: s) = false := rfl
  rw [piecesOf_cons, List.cons_append, readUnsigned, digit?_of_isDigit hc]
  simp only [hzero, if_false, htaken, hpoint, Bool.false_eq_true]

theorem readUnsigned_of_ends (negative : Bool) (hwhole : IsWholePart whole)
    (hfits : valueOf whole ≤ max64) (hrest : Ends rest) :
    readUnsigned negative (piecesOf whole ++ rest) =
      .ok (.ofSignificand negative (valueOf whole), rest) := by
  obtain ⟨c, digits, rfl, hc, htake⟩ := hwhole.takeDigits hfits
  obtain ⟨hzero, htaken⟩ := htake rest hrest.noDigit
  rw [piecesOf_cons, List.cons_append, readUnsigned, digit?_of_isDigit hc]
  simp only [hzero, if_false, htaken, hrest.noDigit, Bool.false_eq_true]
  cases rest with
  | nil => rfl
  | cons p s =>
      obtain ⟨-, hmark, hpoint⟩ := hrest.head
      split
      · next heq => exact absurd (List.cons.inj heq).1 hpoint
      · next heq =>
        obtain ⟨rfl, rfl⟩ := List.cons.inj heq
        rw [hmark]
        rfl
      · next heq => cases heq

/-- A value that begins with a digit is a number. -/
theorem readValue_of_isDigit {c : Char} (hc : c.isDigit = true) (bound depth : ℕ)
    (s : List Piece) :
    readValue (bound + 1) depth (.char c :: s) =
      (readUnsigned false (.char c :: s)).map fun r => (.number r.1, r.2) := by
  have hblank : isBlankPiece (.char c) = false := by
    rw [← Bool.not_eq_true]
    intro h
    simp only [isBlankPiece, Bool.or_eq_true, beq_iff_eq] at h
    rcases h with ((rfl | rfl) | rfl) | rfl <;> cases hc
  rw [readValue, skipBlank_of_not_blank hblank]
  simp only
  split
  case h_8 => rw [digit?_of_isDigit hc, Option.isSome_some, if_pos rfl]
  all_goals
    next heq =>
    cases heq
    cases hc

end Reading

/-! ## Literals as values -/

section Literals

variable {whole digits : List Char}

theorem stands_of_readUnsigned {text : List Char} {n : Number}
    (hdigit : ∀ c ∈ text.head?, c.isDigit = true) (hne : text ≠ [])
    (h : ∀ rest, Ends rest → readUnsigned false (piecesOf text ++ rest) = .ok (n, rest)) :
    Stands text (.number n) 0 := by
  intro bound depth rest hbound _ hrest
  obtain ⟨c, tail, rfl⟩ := List.exists_cons_of_ne_nil hne
  have hread := h rest hrest
  rw [List.length_cons] at hbound
  obtain ⟨bound, rfl⟩ : ∃ b, bound = b + 1 := ⟨bound - 1, by omega⟩
  rw [piecesOf_cons, List.cons_append] at hread ⊢
  rw [readValue_of_isDigit (hdigit c rfl), hread]
  rfl

/-- Behind a minus sign a number is read without its sign. -/
theorem stands_of_readUnsigned_minus {text : List Char} {n : Number}
    (h : ∀ rest, Ends rest → readUnsigned true (piecesOf text ++ rest) = .ok (n, rest)) :
    Stands ('-' :: text) (.number n) 0 := by
  intro bound depth rest hbound _ hrest
  rw [List.length_cons] at hbound
  obtain ⟨bound, rfl⟩ : ∃ b, bound = b + 1 := ⟨bound - 1, by omega⟩
  rw [piecesOf_cons, List.cons_append, readValue, skipBlank_of_not_blank rfl]
  simp only [h rest hrest]
  rfl

theorem IsWholePart.head_isDigit (h : IsWholePart whole) (tail : List Char) :
    ∀ c ∈ (whole ++ tail).head?, c.isDigit = true := by
  intro c hc
  rw [List.head?_append_of_ne_nil _ h.ne_nil] at hc
  exact h.allDigits c (List.mem_of_mem_head? hc)

/-- A whole number of 64 bits is kept. -/
theorem IsWholePart.stands (h : IsWholePart whole) (hfits : valueOf whole ≤ max64) :
    Stands whole (.number (.integer (valueOf whole))) 0 := by
  refine stands_of_readUnsigned ?_ h.ne_nil fun rest hrest => ?_
  · simpa using h.head_isDigit []
  · exact readUnsigned_of_ends false h hfits hrest

/-- It is also written as it was. -/
theorem IsWholePart.text (h : IsWholePart whole) :
    (Number.integer (valueOf whole)).chars = whole := by
  rw [Number.chars, integerText, if_neg (by omega), List.nil_append, Int.natAbs_natCast]
  rcases h with rfl | ⟨hne, hdigits, hhead⟩
  · rfl
  · exact toDigits_valueOf hdigits hne hhead

/-- A whole number, negative ones with their sign, and the number it
denotes. -/
inductive IsInteger : List Char → ℤ → Prop
  | bare {whole : List Char} (h : IsWholePart whole) : IsInteger whole (valueOf whole)
  | minus {whole : List Char} (h : IsWholePart whole) : IsInteger ('-' :: whole) (-valueOf whole)

theorem IsWholePart.valueOf_pos (h : IsWholePart whole) (hne : whole ≠ ['0']) :
    0 < valueOf whole := by
  obtain ⟨-, hdigits, hhead⟩ := h.resolve_left hne
  obtain ⟨c, digits, rfl⟩ := List.exists_cons_of_ne_nil h.ne_nil
  exact Numeric.valueOf_pos hdigits (by simpa using hhead)

section Integer

variable {text : List Char} {n : ℤ}

/-- An integer that fits 64 bits, signed or not, is kept. Zero has no
negative. -/
theorem IsInteger.stands (h : IsInteger text n) (hleast : -2 ^ 63 ≤ n) (hlimit : n < 2 ^ 64)
    (hzero : text ≠ ['-', '0']) : Stands text (.number (.integer n)) 0 := by
  have hmax : max64 = 2 ^ 64 - 1 := rfl
  cases h with
  | bare hwhole => exact hwhole.stands (by omega)
  | @minus whole hwhole =>
      have hpos := hwhole.valueOf_pos fun heq => hzero (congrArg (List.cons '-') heq)
      have hsigned : 0 < valueOf whole ∧ valueOf whole ≤ Nat.pow 2 63 :=
        ⟨hpos, by rw [Nat.pow_eq]; omega⟩
      refine stands_of_readUnsigned_minus fun rest hrest => ?_
      rw [readUnsigned_of_ends true hwhole (by omega) hrest, Number.ofSignificand, if_pos rfl,
        if_pos hsigned]

/-- It is also written as it was. -/
theorem IsInteger.chars (h : IsInteger text n) (hzero : text ≠ ['-', '0']) :
    (Number.integer n).chars = text := by
  cases h with
  | bare hwhole => exact hwhole.text
  | @minus whole hwhole =>
      have hpos := hwhole.valueOf_pos fun heq => hzero (congrArg (List.cons '-') heq)
      have hwritten := hwhole.text
      rw [Number.chars, integerText, if_neg (by omega), List.nil_append, Int.natAbs_natCast]
        at hwritten
      rw [Number.chars, integerText, if_pos (by omega), Int.natAbs_neg, Int.natAbs_natCast,
        hwritten]
      rfl

end Integer

/-- A decimal is a floating-point number, to which its digits are scaled as
far as they fit 64 bits. -/
theorem exists_stands_decimal (hwhole : IsWholePart whole) (hfits : valueOf whole ≤ max64)
    (hdigits : AllDigits digits) (hne : digits ≠ []) :
    ∃ front more x, digits = front ++ more ∧ valueOf (whole ++ front) ≤ max64 ∧
      (valueOf (whole ++ digits) ≤ max64 → more = []) ∧
      Number.ofScaled false (valueOf (whole ++ front)) (-front.length) = some (.float x) ∧
      Stands (whole ++ '.' :: digits) (.number (.float x)) 0 := by
  have hvalue (back : List Char) :
      valueOf (whole ++ back) = Nat.ofDigitChars 10 back (valueOf whole) := by
    rw [valueOf, Nat.ofDigitChars_append]
    rfl
  obtain ⟨front, more, x, hsplit, hfront, hall, hscaled, hread⟩ :=
    exists_readFraction false hdigits hne hfits
  rw [← hvalue] at hfront hscaled hall
  refine ⟨front, more, x, hsplit, hfront, hall, hscaled, ?_⟩
  refine stands_of_readUnsigned (hwhole.head_isDigit _) (by simp) fun rest hrest => ?_
  rw [piecesOf_append, List.append_assoc, piecesOf_cons, List.cons_append,
    readUnsigned_of_point false hwhole hfits, hread rest hrest]

end Literals

end Json

end UploadHooks
