import UploadHooks.Proofs.Json.Literal

/-!
# What has been read is read again

The reader takes texts off the front of its input, and what it has taken it
takes again with the same result, whatever else follows (`Rereads`). After
a number that has to be something that ends one. The predicate is closed
under the ways in which the readers of numbers are put together, each of
which looks at what is behind the digits.

This is about the readers that do not recurse into values: those of
strings and of numbers.
-/

namespace UploadHooks

namespace Json

open Utf8 Numeric

/-- What the reader has taken it takes again, with anything behind it that
may follow. -/
def Rereads {α : Type} (follows : List Piece → Prop) (read : List Piece → Reading α) : Prop :=
  ∀ ⦃s : List Piece⦄ ⦃a : α⦄ ⦃rest : List Piece⦄, read s = .ok (a, rest) →
    ∃ taken, s = taken ++ rest ∧
      ∀ rest', follows rest' → read (taken ++ rest') = .ok (a, rest')

/-- Nothing is asked of what follows. -/
def Anything (_ : List Piece) : Prop := True

/-! ## Escapes and strings -/

theorem readHex_rereads : Rereads Anything readHex := by
  intro s n rest h
  rw [readHex] at h
  cases hdigits : hexDigits? s with
  | none =>
      rw [hdigits] at h
      simp only at h
      split at h <;> cases h
  | some r =>
      rw [hdigits] at h
      obtain rfl := Except.ok.inj h
      unfold hexDigits? at hdigits
      split at hdigits
      · next a b c d s =>
        split at hdigits
        · next ha hb hc hd =>
          obtain ⟨rfl, rfl⟩ := Prod.mk.inj (Option.some.inj hdigits)
          exact ⟨[a, b, c, d], rfl, fun rest' _ => by
            simp [readHex, hexDigits?, ha, hb, hc, hd]⟩
        · cases hdigits
      · cases hdigits

theorem readLowSurrogate_rereads (high : ℕ) : Rereads Anything (readLowSurrogate high) := by
  intro s c rest h
  unfold readLowSurrogate at h
  split at h
  · cases h
  · next s =>
    split at h
    · cases h
    · next s =>
      cases hhex : readHex s with
      | error fault =>
          rw [hhex] at h
          cases h
      | ok r =>
          obtain ⟨low, more⟩ := r
          rw [hhex] at h
          simp only at h
          split at h
          · next hlow =>
            obtain ⟨rfl, rfl⟩ := Prod.mk.inj (Except.ok.inj h)
            obtain ⟨taken, rfl, hagain⟩ := readHex_rereads hhex
            refine ⟨.char '\\' :: .char 'u' :: taken, rfl, fun rest' hrest' => ?_⟩
            simp [readLowSurrogate, hagain rest' hrest', hlow]
          · cases h
    · cases h
  · cases h

theorem readCodePoint_rereads : Rereads Anything readCodePoint := by
  intro s c rest h
  rw [readCodePoint] at h
  cases hhex : readHex s with
  | error fault =>
      rw [hhex] at h
      cases h
  | ok r =>
      obtain ⟨n, more⟩ := r
      rw [hhex] at h
      simp only at h
      obtain ⟨taken, rfl, hagain⟩ := readHex_rereads hhex
      split_ifs at h with hlow hhigh
      · obtain ⟨pair, rfl, hpair⟩ := readLowSurrogate_rereads n h
        refine ⟨taken ++ pair, (List.append_assoc ..).symm, fun rest' hrest' => ?_⟩
        rw [List.append_assoc, readCodePoint, hagain _ trivial]
        simp only [hlow, hhigh, and_self, if_false, if_true, hpair rest' hrest']
      · obtain ⟨rfl, rfl⟩ := Prod.mk.inj (Except.ok.inj h)
        refine ⟨taken, rfl, fun rest' hrest' => ?_⟩
        rw [readCodePoint, hagain rest' hrest']
        simp only [hlow, hhigh, if_false]

theorem readEscape_rereads : Rereads Anything readEscape := by
  intro s c rest h
  unfold readEscape at h
  split at h
  · cases h
  · next s =>
    obtain ⟨taken, rfl, hagain⟩ := readCodePoint_rereads h
    exact ⟨.char 'u' :: taken, rfl, fun rest' hrest' => hagain rest' hrest'⟩
  · next p s hp =>
    cases hsimple : simpleEscape? p with
    | none =>
        rw [hsimple] at h
        cases h
    | some d =>
        rw [hsimple] at h
        obtain ⟨rfl, rfl⟩ := Prod.mk.inj (Except.ok.inj h)
        refine ⟨[p], rfl, fun rest' _ => ?_⟩
        rw [List.singleton_append, readEscape, hsimple]
        exact hp

theorem readContent_again {bound : ℕ} {content reversed s rest : List Piece}
    (h : readContent bound content s = .ok (reversed, rest)) :
    ∃ taken, s = taken ++ rest ∧ ∀ bound' rest', taken.length ≤ bound' →
      readContent bound' content (taken ++ rest') = .ok (reversed, rest') := by
  induction bound generalizing content s with
  | zero => cases h
  | succ bound ih =>
      cases s with
      | nil => cases h
      | cons p s =>
          have hnext (bound' : ℕ) (taken : List Piece) (hbound : (p :: taken).length ≤ bound') :
              ∃ b, bound' = b + 1 ∧ taken.length ≤ b := by
            rw [List.length_cons] at hbound
            exact ⟨bound' - 1, by omega, by omega⟩
          unfold readContent at h
          split at h
          · obtain ⟨rfl, rfl⟩ := Prod.mk.inj (Except.ok.inj h)
            refine ⟨[.char '"'], rfl, fun bound' rest' hbound => ?_⟩
            obtain ⟨b, rfl, -⟩ := hnext bound' [] hbound
            rfl
          · cases hescape : readEscape s with
            | error fault =>
                rw [hescape] at h
                cases h
            | ok r =>
                obtain ⟨c, more⟩ := r
                rw [hescape] at h
                obtain ⟨escape, rfl, hagain⟩ := readEscape_rereads hescape
                obtain ⟨taken, rfl, htaken⟩ := ih h
                refine ⟨.char '\\' :: (escape ++ taken), by simp, fun bound' rest' hbound => ?_⟩
                obtain ⟨b, rfl, hb⟩ := hnext bound' _ hbound
                rw [List.length_append] at hb
                rw [List.cons_append, List.append_assoc,
                  readContent_escape b content (hagain _ trivial), htaken b rest' (by omega)]
          · next c hquote hslash =>
            split at h
            · cases h
            · next hc =>
              obtain ⟨taken, rfl, htaken⟩ := ih h
              refine ⟨.char c :: taken, rfl, fun bound' rest' hbound => ?_⟩
              obtain ⟨b, rfl, hb⟩ := hnext bound' _ hbound
              rw [List.cons_append, readContent_plain b content (fun heq => hquote (heq ▸ rfl))
                (fun heq => hslash (heq ▸ rfl)) hc, htaken b rest' hb]
          · obtain ⟨taken, rfl, htaken⟩ := ih h
            refine ⟨_ :: taken, rfl, fun bound' rest' hbound => ?_⟩
            obtain ⟨b, rfl, hb⟩ := hnext bound' _ hbound
            rw [List.cons_append, readContent, htaken b rest' hb]

theorem readString_rereads : Rereads Anything readString := by
  intro s text rest h
  rw [readString] at h
  cases hcontent : readContent (s.length + 1) [] s with
  | error fault =>
      rw [hcontent] at h
      cases h
  | ok r =>
      obtain ⟨reversed, more⟩ := r
      rw [hcontent] at h
      simp only at h
      split at h
      · next hchars =>
        obtain ⟨rfl, rfl⟩ := Prod.mk.inj (Except.ok.inj h)
        obtain ⟨taken, rfl, htaken⟩ := readContent_again hcontent
        refine ⟨taken, rfl, fun rest' _ => ?_⟩
        have hlength : taken.length ≤ (taken ++ rest').length + 1 := by
          rw [List.length_append]
          omega
        rw [readString, htaken _ rest' hlength]
        simp only [hchars, if_true]
      · cases h

/-! ## Numbers -/

/-- Whether a digit follows is settled before the end of what was taken, or
at once. -/
theorem startsWithDigit_append {taken rest rest' : List Piece}
    (h : startsWithDigit (taken ++ rest) = false) (hrest' : startsWithDigit rest' = false) :
    startsWithDigit (taken ++ rest') = false := by
  cases taken with
  | nil => exact hrest'
  | cons p taken => exact h

theorem takeDigits_again {limit acc taken n k : ℕ} {s more rest : List Piece}
    (h : takeDigits limit acc taken s = (n, k, more ++ rest)) :
    ∃ digits, s = digits ++ (more ++ rest) ∧ ∀ rest', startsWithDigit rest' = false →
      takeDigits limit acc taken (digits ++ (more ++ rest')) = (n, k, more ++ rest') := by
  induction s generalizing acc taken with
  | nil =>
      obtain ⟨rfl, hleft⟩ := Prod.mk.inj h
      obtain ⟨rfl, hnil⟩ := Prod.mk.inj hleft
      obtain ⟨rfl, rfl⟩ := List.append_eq_nil_iff.mp hnil.symm
      exact ⟨[], rfl, fun rest' hrest' => takeDigits_stop _ _ _ hrest'⟩
  | cons p s ih =>
      have hstop (hhere : ∀ s', takeDigits limit acc taken (p :: s') = (acc, taken, p :: s')) :
          ∃ digits, p :: s = digits ++ (more ++ rest) ∧ ∀ rest', startsWithDigit rest' = false →
            takeDigits limit acc taken (digits ++ (more ++ rest')) = (n, k, more ++ rest') := by
        rw [hhere] at h
        obtain ⟨rfl, hleft⟩ := Prod.mk.inj h
        obtain ⟨rfl, hsplit⟩ := Prod.mk.inj hleft
        refine ⟨[], hsplit, fun rest' hrest' => ?_⟩
        cases more with
        | nil => exact takeDigits_stop _ _ _ hrest'
        | cons q more =>
            obtain ⟨rfl, -⟩ := List.cons.inj hsplit
            exact hhere _
      cases hp : digit? p with
      | none => exact hstop fun s' => by rw [takeDigits, hp]
      | some d =>
          by_cases hle : acc * 10 + d ≤ limit
          · rw [takeDigits, hp] at h
            simp only [hle, if_true] at h
            obtain ⟨digits, rfl, hagain⟩ := ih h
            refine ⟨p :: digits, rfl, fun rest' hrest' => ?_⟩
            rw [List.cons_append, takeDigits, hp]
            simp only [hle, if_true, hagain rest' hrest']
          · refine hstop fun s' => ?_
            rw [takeDigits, hp]
            simp only [hle, if_false]

theorem dropWhile_digits {rest : List Piece} (h : startsWithDigit rest = false) :
    rest.dropWhile (fun p => (digit? p).isSome) = rest := by
  cases rest with
  | nil => rfl
  | cons p more =>
      rw [startsWithDigit] at h
      exact List.dropWhile_cons_of_neg (by simp [h])

theorem skipDigits_again {s : List Piece} (h : startsWithDigit s = true) :
    ∃ p digits rest, s = p :: (digits ++ rest) ∧ startsWithDigit rest = false ∧
      ∀ rest', startsWithDigit rest' = false →
        skipDigits (p :: (digits ++ rest')) = (digits.length + 1, rest') := by
  cases s with
  | nil => cases h
  | cons p s =>
      have hdigits : ∀ q ∈ p :: s.takeWhile (fun q => (digit? q).isSome),
          (digit? q).isSome = true := by
        rintro q (- | ⟨-, hq⟩)
        · exact h
        · simpa using List.mem_takeWhile_imp hq
      refine ⟨p, s.takeWhile (fun q => (digit? q).isSome),
        s.dropWhile (fun q => (digit? q).isSome), by rw [List.takeWhile_append_dropWhile], ?_,
        fun rest' hrest' => ?_⟩
      · have hhead := List.head?_dropWhile_not (fun q => (digit? q).isSome) s
        cases hdrop : s.dropWhile fun q => (digit? q).isSome with
        | nil => rfl
        | cons q more =>
            rw [hdrop] at hhead
            simpa [startsWithDigit] using hhead
      · rw [← List.cons_append, skipDigits, List.dropWhile_append_of_pos hdigits,
          dropWhile_digits hrest']
        simp only [List.length_append, List.length_cons, Nat.add_sub_cancel]

section Digits

variable {α : Type}

/-- Digits are read before what follows them. -/
theorem Rereads.behindTaken {behind : ℕ → ℕ → List Piece → Reading α}
    (h : ∀ n k, Rereads Ends (behind n k)) (limit acc : ℕ) :
    Rereads Ends fun s => behind (takeDigits limit acc 0 s).1 (takeDigits limit acc 0 s).2.1
      (takeDigits limit acc 0 s).2.2 := by
  intro s a rest hread
  obtain ⟨⟨n, k, left⟩, htake⟩ : ∃ r, takeDigits limit acc 0 s = r := ⟨_, rfl⟩
  simp only [htake] at hread
  obtain ⟨taken, rfl, hagain⟩ := h n k hread
  obtain ⟨digits, rfl, htaken⟩ := takeDigits_again htake
  refine ⟨digits ++ taken, (List.append_assoc ..).symm, fun rest' hrest' => ?_⟩
  simp only [List.append_assoc, htaken rest' hrest'.noDigit, hagain rest' hrest']

/-- As `Rereads`, of texts that begin with a digit, of which at least that
one is taken. -/
def RereadsDigit (read : List Piece → Reading α) : Prop :=
  ∀ ⦃s : List Piece⦄ ⦃a : α⦄ ⦃rest : List Piece⦄, startsWithDigit s = true →
    read s = .ok (a, rest) → ∃ p taken, s = p :: (taken ++ rest) ∧
      ∀ rest', Ends rest' → read (p :: (taken ++ rest')) = .ok (a, rest')

theorem RereadsDigit.behindSkipped {behind : ℕ → List Piece → Reading α}
    (h : ∀ count, Rereads Ends (behind count)) :
    RereadsDigit fun s => behind (skipDigits s).1 (skipDigits s).2 := by
  intro s a rest hs hread
  obtain ⟨p, digits, after, rfl, hafter, hskip⟩ := skipDigits_again hs
  simp only [hskip after hafter] at hread
  obtain ⟨taken, rfl, hagain⟩ := h _ hread
  refine ⟨p, digits ++ taken, by simp, fun rest' hrest' => ?_⟩
  have hnoDigit := startsWithDigit_append hafter hrest'.noDigit
  simp only [List.append_assoc, hskip _ hnoDigit, hagain rest' hrest']

theorem Rereads.ifDigit {starts stops : List Piece → Reading α} (hstarts : RereadsDigit starts)
    (hstops : Rereads Ends stops) :
    Rereads Ends fun s => if startsWithDigit s then starts s else stops s := by
  intro s a rest hread
  cases hs : startsWithDigit s with
  | false =>
      simp only [hs, Bool.false_eq_true, if_false] at hread
      obtain ⟨taken, rfl, hagain⟩ := hstops hread
      refine ⟨taken, rfl, fun rest' hrest' => ?_⟩
      simp only [startsWithDigit_append hs hrest'.noDigit, Bool.false_eq_true, if_false,
        hagain rest' hrest']
  | true =>
      simp only [hs, if_true] at hread
      obtain ⟨p, taken, rfl, hagain⟩ := hstarts hs hread
      refine ⟨p :: taken, rfl, fun rest' hrest' => ?_⟩
      have hdigit : startsWithDigit (p :: taken ++ rest') = true := hs
      simp only [hdigit, if_true]
      exact hagain rest' hrest'

theorem rereads_ok (follows : List Piece → Prop) (a : α) :
    Rereads follows fun s => .ok (a, s) := by
  intro s b rest h
  obtain ⟨rfl, rfl⟩ := Prod.mk.inj (Except.ok.inj h)
  exact ⟨[], rfl, fun _ _ => rfl⟩

end Digits

section Unsigned

variable (negative : Bool) (significand : ℕ) (e : ℤ)

theorem finish_again {s rest : List Piece} {n : Number}
    (h : finish negative significand e s = .ok (n, rest)) :
    rest = s ∧ ∀ rest', finish negative significand e rest' = .ok (n, rest') := by
  rw [finish] at h
  cases hscaled : Number.ofScaled negative significand e with
  | none =>
      rw [hscaled] at h
      cases h
  | some m =>
      rw [hscaled] at h
      obtain ⟨rfl, rfl⟩ := Prod.mk.inj (Except.ok.inj h)
      exact ⟨rfl, fun rest' => by rw [finish, hscaled]⟩

theorem finish_rereads : Rereads Ends (finish negative significand e) := by
  intro s n rest h
  obtain ⟨rfl, hagain⟩ := finish_again _ _ _ h
  exact ⟨[], rfl, fun rest' _ => hagain rest'⟩

/-- The digits of an exponent, after its sign. -/
def readPower (up : Bool) : List Piece → Reading Number
  | [] => .error (.before .endInValue [])
  | p :: s =>
    match digit? p with
    | none => .error (.upon .invalidNumber (p :: s))
    | some d =>
      let (n, _, rest) := takeDigits exponentLimit d 0 s
      if startsWithDigit rest then
        if significand ≠ 0 ∧ up then .error (.before .numberOutOfRange (rest.drop 1))
        else .ok (.float ⟨negative, .zero⟩, (skipDigits rest).2)
      else finish negative significand (if up then e + n else e - n) rest

theorem readPower_rereads (up : Bool) : Rereads Ends (readPower negative significand e up) := by
  have hzero := RereadsDigit.behindSkipped fun _ =>
    rereads_ok Ends (Number.float ⟨negative, .zero⟩)
  have hhuge : RereadsDigit fun s => (if significand ≠ 0 ∧ up = true then
      .error (.before .numberOutOfRange (s.drop 1))
      else .ok (.float ⟨negative, .zero⟩, (skipDigits s).2) : Reading Number) := by
    intro s n rest hs h
    split_ifs at h with hrange
    simpa only [hrange, if_false] using hzero hs h
  intro s n rest h
  cases s with
  | nil => cases h
  | cons p s =>
      rw [readPower] at h
      cases hp : digit? p with
      | none =>
          rw [hp] at h
          cases h
      | some d =>
          rw [hp] at h
          obtain ⟨taken, rfl, hagain⟩ := Rereads.behindTaken (fun n _ => .ifDigit hhuge
            (finish_rereads negative significand (if up then e + n else e - n))) exponentLimit d h
          refine ⟨p :: taken, rfl, fun rest' hrest' => ?_⟩
          rw [List.cons_append, readPower, hp]
          exact hagain rest' hrest'

/-- The sign in front of the digits is as it was while they begin as they
did. -/
theorem exists_readExponent (s : List Piece) :
    ∃ sign up power, s = sign ++ power ∧ ∀ power', power'.head? = power.head? →
      readExponent negative significand e (sign ++ power') =
        readPower negative significand e up power' := by
  cases s with
  | nil =>
      refine ⟨[], true, [], rfl, fun power' hhead => ?_⟩
      obtain rfl := List.head?_eq_none_iff.mp hhead
      rfl
  | cons p s =>
      by_cases hplus : p = .char '+'
      · subst hplus
        exact ⟨[.char '+'], true, s, rfl, fun power' _ => rfl⟩
      · by_cases hminus : p = .char '-'
        · subst hminus
          exact ⟨[.char '-'], false, s, rfl, fun power' _ => rfl⟩
        · refine ⟨[], true, p :: s, rfl, fun power' hhead => ?_⟩
          obtain ⟨s', rfl⟩ := List.head?_eq_some_iff.mp hhead
          rw [List.nil_append, readExponent]
          · rfl
          · exact fun _ hsign => hplus (List.cons.inj hsign).1
          · exact fun _ hsign => hminus (List.cons.inj hsign).1

theorem readExponent_rereads : Rereads Ends (readExponent negative significand e) := by
  intro s n rest h
  obtain ⟨sign, up, power, rfl, hpower⟩ := exists_readExponent negative significand e s
  rw [hpower power rfl] at h
  obtain ⟨taken, rfl, hagain⟩ := readPower_rereads negative significand e up h
  have hne : taken ≠ [] := by
    rintro rfl
    cases hagain [] (by simp [Ends])
  refine ⟨sign ++ taken, (List.append_assoc ..).symm, fun rest' hrest' => ?_⟩
  rw [List.append_assoc, hpower _ (by simp [List.head?_append_of_ne_nil _ hne]),
    hagain rest' hrest']

theorem readTail_rereads : Rereads Ends (readTail negative significand e) := by
  intro s n rest h
  have hfinish (hread : readTail negative significand e s = finish negative significand e s) :
      ∃ taken, s = taken ++ rest ∧ ∀ rest', Ends rest' →
        readTail negative significand e (taken ++ rest') = .ok (n, rest') := by
    rw [hread] at h
    obtain ⟨rfl, hagain⟩ := finish_again _ _ _ h
    refine ⟨[], rfl, fun rest' hrest' => ?_⟩
    rw [List.nil_append, readTail_of_ends _ _ _ hrest', hagain]
  cases s with
  | nil => exact hfinish rfl
  | cons p s =>
      cases hp : isExponentMark p with
      | false => exact hfinish (by rw [readTail, hp]; rfl)
      | true =>
          rw [readTail, hp] at h
          obtain ⟨taken, rfl, hagain⟩ := readExponent_rereads _ _ _ h
          refine ⟨p :: taken, rfl, fun rest' hrest' => ?_⟩
          rw [List.cons_append, readTail, hp]
          exact hagain rest' hrest'

theorem readFraction_rereads : Rereads Ends (readFraction negative significand e) := by
  have hstops (n k : ℕ) : Rereads Ends fun s => (if k = 0 then
      if s.isEmpty then .error (.upon .endInValue []) else .error (.upon .invalidNumber s)
      else readTail negative n (e - k) s : Reading Number) := by
    intro s m rest h
    by_cases hnone : k = 0
    · simp only [hnone, if_true] at h
      split at h <;> cases h
    · simp only [hnone, if_false] at h ⊢
      exact readTail_rereads _ _ _ h
  exact Rereads.behindTaken (fun n k => .ifDigit
    (.behindSkipped fun _ => readTail_rereads negative n (e - k)) (hstops n k)) max64 significand

/-- No point follows where none did. -/
theorem point_ne_append {taken rest rest' : List Piece}
    (h : ∀ s, taken ++ rest ≠ .char '.' :: s) (hrest' : Ends rest') :
    ∀ s, taken ++ rest' ≠ .char '.' :: s := by
  rintro s heq
  cases taken with
  | nil =>
      rw [List.nil_append] at heq
      rw [heq] at hrest'
      exact hrest'.head.2.2 rfl
  | cons p taken =>
      obtain ⟨rfl, -⟩ := List.cons.inj heq
      exact h _ rfl

theorem readAfterWhole_rereads (e : ℕ) : Rereads Ends (readAfterWhole negative significand e) := by
  intro s n rest h
  by_cases hpoint : ∃ s', s = .char '.' :: s'
  · obtain ⟨s, rfl⟩ := hpoint
    obtain ⟨taken, rfl, hagain⟩ := readFraction_rereads _ _ _ h
    exact ⟨.char '.' :: taken, rfl, hagain⟩
  · have hnone := not_exists.mp hpoint
    rw [readAfterWhole] at h
    · obtain ⟨taken, rfl, hagain⟩ := readTail_rereads _ _ _ h
      refine ⟨taken, rfl, fun rest' hrest' => ?_⟩
      rw [readAfterWhole]
      · exact hagain rest' hrest'
      · exact point_ne_append hnone hrest'
    · exact hnone

/-- What follows a whole part that fits. -/
def readBehindWhole : List Piece → Reading Number
  | .char '.' :: s => readFraction negative significand 0 s
  | p :: s =>
    if isExponentMark p then readExponent negative significand 0 s
    else .ok (.ofSignificand negative significand, p :: s)
  | [] => .ok (.ofSignificand negative significand, [])

theorem readBehindWhole_of_ends {rest : List Piece} (h : Ends rest) :
    readBehindWhole negative significand rest =
      .ok (.ofSignificand negative significand, rest) := by
  cases rest with
  | nil => rfl
  | cons p s =>
      obtain ⟨-, hmark, hpoint⟩ := h.head
      rw [readBehindWhole, hmark]
      · rfl
      · exact hpoint

theorem readBehindWhole_rereads : Rereads Ends (readBehindWhole negative significand) := by
  intro s n rest h
  have hwhole (hread : readBehindWhole negative significand s =
      .ok (.ofSignificand negative significand, s)) :
      ∃ taken, s = taken ++ rest ∧ ∀ rest', Ends rest' →
        readBehindWhole negative significand (taken ++ rest') = .ok (n, rest') := by
    rw [hread] at h
    obtain ⟨rfl, rfl⟩ := Prod.mk.inj (Except.ok.inj h)
    exact ⟨[], rfl, fun rest' hrest' => readBehindWhole_of_ends _ _ hrest'⟩
  cases s with
  | nil => exact hwhole rfl
  | cons p s =>
      by_cases hpoint : p = .char '.'
      · subst hpoint
        obtain ⟨taken, rfl, hagain⟩ := readFraction_rereads _ _ _ h
        exact ⟨.char '.' :: taken, rfl, hagain⟩
      · cases hp : isExponentMark p with
        | false =>
            refine hwhole ?_
            rw [readBehindWhole, hp]
            · rfl
            · exact hpoint
        | true =>
            rw [readBehindWhole, hp] at h
            · obtain ⟨taken, rfl, hagain⟩ := readExponent_rereads _ _ _ h
              refine ⟨p :: taken, rfl, fun rest' hrest' => ?_⟩
              rw [List.cons_append, readBehindWhole, hp]
              · exact hagain rest' hrest'
              · exact hpoint
            · exact hpoint

/-- What follows an accepted number starts with no digit, so a zero that
stood alone does so again. -/
theorem readUnsigned_rereads : Rereads Ends (readUnsigned negative) := by
  intro s n rest h
  cases s with
  | nil => cases h
  | cons p s =>
      rw [readUnsigned] at h
      cases hp : digit? p with
      | none =>
          rw [hp] at h
          cases h
      | some d =>
          rw [hp] at h
          simp only at h
          split at h
          · cases h
          · next hzero =>
            obtain ⟨taken, rfl, hagain⟩ := Rereads.behindTaken (fun n _ => .ifDigit
              (.behindSkipped fun more => readAfterWhole_rereads negative n more)
              (readBehindWhole_rereads negative n)) max64 d h
            refine ⟨p :: taken, rfl, fun rest' hrest' => ?_⟩
            have halone : ¬ (d = 0 ∧ startsWithDigit (taken ++ rest') = true) := by
              rintro ⟨hd, hstarts⟩
              rw [startsWithDigit_append (by simpa [hd] using hzero) hrest'.noDigit] at hstarts
              cases hstarts
            rw [List.cons_append, readUnsigned, hp]
            simp only [halone, if_false]
            exact hagain rest' hrest'

end Unsigned

end Json

end UploadHooks
