import UploadHooks.Proofs.Numeric.Reading
import UploadHooks.Proofs.Status.Settings

/-!
# How long a call waits

What the service writes behind `Retry-After` is a text under its control,
and most of what it can write there is no wait. `Asks` says which lines are
a wait and `Uncounted` which are not, each from the notation of the number
on the line; a line is one or the other (`uncounted_iff`). The number is
taken in the 64-bit format, so what is infinite or below zero is so after
rounding: a number too large for the format is infinite, and one that
rounds to the zero with a minus sign is a wait of no time.

Within a call the wait comes behind the attempt that made it necessary.
`Paced` follows the actions of a call, with one rule for each way an attempt
may leave it, and what the waits come to is then an induction on those rules.
-/

namespace UploadHooks

namespace Status

open Http (Outcome Request Attempt)

namespace Settings

/-- A whole number of seconds that fits the mantissa is exactly that delay. -/
theorem isDelay_of_isNatural {limit n : ℕ} {core : List Char}
    (h : Numeric.IsNatural limit core n) (hn : n < 2 ^ 53) : IsDelay core (Duration.ofSecs n) := by
  obtain ⟨digits, hsigned, hdecimal⟩ := h.exists_signed
  obtain ⟨a, ha, hvalue⟩ := Numeric.Magnitude.exists_inFormat hn (e := 0) (by decide) (by decide)
  rw [zpow_zero, mul_one] at hvalue
  have hfinite : Numeric.IsFinite core ⟨false, a⟩ :=
    ⟨false, digits, hsigned, rfl, n, hdecimal, hvalue ▸ ha.value_lt_overflow, hvalue ▸ ha.isNearest⟩
  have hlt : a.value < 2 ^ 64 := by
    rw [hvalue]
    exact_mod_cast hn.trans (by decide)
  refine ⟨⟨false, a⟩, hfinite, by simp, hlt, ?_⟩
  have hnanos : a.value * 10 ^ 9 = ((Duration.ofSecs n).nanos : ℚ) := by
    rw [hvalue, Duration.ofSecs, Duration.nanosPerSecond]
    push_cast
    ring
  rw [hnanos]
  exact Numeric.isNearest_self _

end Settings

namespace RetryPolicy

/-! ## What a header line asks for -/

/-- A visible character of ASCII, or a tab. -/
def IsShown (c : Char) : Prop := c = '\t' ∨ ' ' ≤ c ∧ c ≤ '~'

/-- The line is that text, all of whose characters can be seen. -/
def Shows (line : List UInt8) (text : List Char) : Prop :=
  line = Utf8.encodeChars text ∧ ∀ c ∈ text, IsShown c

/-- What the line says apart from the blanks around it. -/
def Says (line : List UInt8) (core : List Char) : Prop :=
  ∃ text, Shows line text ∧ Text.Stripped core text

/-- The line is a number of seconds that is a duration. -/
def Asks (line : List UInt8) (wait : Duration) : Prop :=
  ∃ core, Says line core ∧ Settings.IsDelay core wait

/-- The line is a whole number of seconds below 2^53, with any number of
leading zeros and an optional plus sign. -/
def AsksWhole (line : List UInt8) (secs : ℕ) : Prop :=
  ∃ core, Says line core ∧ Numeric.IsNatural (2 ^ 53 - 1) core secs

/-- Why a number of seconds is no duration. -/
inductive NoDuration : Numeric.Reading → Prop
  | belowZero {x : Numeric.Binary64} : x.value < 0 → NoDuration (.finite x)
  | tooLong {x : Numeric.Binary64} : 2 ^ 64 ≤ x.value → NoDuration (.finite x)
  | infinite {negative : Bool} : NoDuration (.infinite negative)
  | notANumber : NoDuration .notANumber

/-- Why a line is no wait. -/
inductive Uncounted (line : List UInt8) : Prop
  | hidden : (∀ text, ¬ Shows line text) → Uncounted line
  | noNumber {core : List Char} : Says line core →
      (∀ reading, ¬ Numeric.Denotes core reading) → Uncounted line
  | noDuration {core : List Char} {reading : Numeric.Reading} : Says line core →
      Numeric.Denotes core reading → NoDuration reading → Uncounted line

section Line

variable {line : List UInt8} {text core : List Char} {wait : Duration}

theorem isShown_iff {c : Char} : IsShown c ↔ c.toNat = 9 ∨ 32 ≤ c.toNat ∧ c.toNat < 127 := by
  have hrange : ' ' ≤ c ∧ c ≤ '~' ↔ 32 ≤ c.toNat ∧ c.toNat < 127 := by
    simp only [Char.le_def, UInt32.le_iff_toNat_le]
    exact and_congr_right fun _ => Nat.lt_succ_iff.symm
  rw [IsShown, hrange, ← Char.toNat_inj]
  rfl

theorem toNat_ofByte (b : UInt8) : (Char.ofNat b.toNat).toNat = b.toNat := by
  rw [Char.ofNat, dif_pos (.inl (b.toNat_lt.trans (by decide)))]
  rfl

theorem isVisible_iff {b : UInt8} : isVisible b = true ↔ IsShown (Char.ofNat b.toNat) := by
  simp only [isShown_iff, toNat_ofByte, isVisible, Bool.or_eq_true, Bool.and_eq_true,
    decide_eq_true_eq, beq_iff_eq]
  exact or_comm

theorem IsShown.encode {c : Char} (h : IsShown c) :
    String.utf8EncodeChar c = [Utf8.asciiByte c] :=
  Utf8.encodeChar_ascii (by have := isShown_iff.mp h; omega)

theorem IsShown.ofByte {c : Char} (h : IsShown c) : Char.ofNat (Utf8.asciiByte c).toNat = c := by
  have hrange := isShown_iff.mp h
  rw [Utf8.asciiByte, UInt8.toNat_ofNat', Nat.mod_eq_of_lt (by omega), Char.ofNat_toNat]

theorem encodeChars_of_isShown (h : ∀ c ∈ text, IsShown c) :
    Utf8.encodeChars text = text.map Utf8.asciiByte := by
  rw [Utf8.encodeChars, List.map_eq_flatMap]
  exact List.flatMap_congr fun c hc => (h c hc).encode

theorem headerText?_eq_some_iff : headerText? line = some text ↔ Shows line text := by
  have hbyte (b : UInt8) : Utf8.asciiByte (Char.ofNat b.toNat) = b := by
    rw [Utf8.asciiByte, toNat_ofByte, UInt8.ofNat_toNat]
  simp only [headerText?, List.all_eq_true, isVisible_iff, Option.ite_none_right_eq_some,
    Option.some.injEq]
  constructor
  · rintro ⟨hshown, rfl⟩
    have hall : ∀ c ∈ line.map fun b => Char.ofNat b.toNat, IsShown c :=
      List.forall_mem_map.mpr hshown
    refine ⟨?_, hall⟩
    rw [encodeChars_of_isShown hall, List.map_map]
    exact (List.map_id'' hbyte line).symm
  · rintro ⟨rfl, hall⟩
    rw [encodeChars_of_isShown hall, List.map_map]
    refine ⟨List.forall_mem_map.mpr fun c hc => ?_, ?_⟩
    · rw [(hall c hc).ofByte]
      exact hall c hc
    · exact (List.map_congr_left fun c hc => (hall c hc).ofByte).trans (List.map_id' text)

theorem says_iff :
    Says line core ↔ ∃ text, headerText? line = some text ∧ Text.trim text = core := by
  simp only [Says, headerText?_eq_some_iff, Text.trim_eq_iff]

/-- A line says at most one thing. -/
theorem Says.unique {core' : List Char} (h : Says line core) (h' : Says line core') :
    core = core' := by
  obtain ⟨text, htext, rfl⟩ := says_iff.mp h
  obtain ⟨text', htext', rfl⟩ := says_iff.mp h'
  rw [Option.some.inj (htext.symm.trans htext')]

theorem requestedWait?_eq_some_iff : requestedWait? line = some wait ↔ Asks line wait := by
  simp only [requestedWait?, Option.bind_eq_bind, Option.bind_eq_some_iff, toOption_eq_some_iff,
    Settings.ofSeconds_eq_ok_iff, Asks, says_iff, Settings.IsDelay,
    ← Numeric.readLiteral_eq_finite_iff]
  constructor
  · rintro ⟨text, htext, reading, hread, x, rfl, hx⟩
    exact ⟨_, ⟨text, htext, rfl⟩, x, hread, hx⟩
  · rintro ⟨_, ⟨text, htext, rfl⟩, x, hread, hx⟩
    exact ⟨text, htext, _, hread, x, rfl, hx⟩

theorem exists_ofSeconds_iff {x : Numeric.Binary64} :
    (∃ d, Duration.ofSeconds (.finite x) = .ok d) ↔ 0 ≤ x.value ∧ x.value < 2 ^ 64 := by
  simp only [Settings.ofSeconds_eq_ok_iff]
  constructor
  · rintro ⟨d, _, ⟨⟩, hsign, hlt, -⟩
    exact ⟨x.value_nonneg_iff.mpr hsign, (x.value_eq_magnitude hsign).trans_lt hlt⟩
  · rintro ⟨hnonneg, hlt⟩
    have hsign := x.value_nonneg_iff.mp hnonneg
    obtain ⟨n, hn⟩ := Numeric.exists_isNearest_nat
      (mul_nonneg x.magnitude.value_nonneg (by norm_num : (0 : ℚ) ≤ 10 ^ 9))
    exact ⟨⟨n⟩, x, rfl, hsign, (x.value_eq_magnitude hsign).symm.trans_lt hlt, hn⟩

theorem noDuration_iff {reading : Numeric.Reading} :
    NoDuration reading ↔ (Duration.ofSeconds reading).toOption = none := by
  rw [Option.eq_none_iff_forall_ne_some]
  simp only [ne_eq, toOption_eq_some_iff, ← not_exists]
  cases reading with
  | finite x =>
      rw [exists_ofSeconds_iff]
      constructor
      · rintro (hbelow | hlong) ⟨hnonneg, hlt⟩
        · exact absurd hnonneg (not_le.mpr hbelow)
        · exact absurd hlt (not_lt.mpr hlong)
      · intro hnone
        by_cases hnonneg : 0 ≤ x.value
        · exact .tooLong (not_lt.mp fun hlt => hnone ⟨hnonneg, hlt⟩)
        · exact .belowZero (not_le.mp hnonneg)
  | infinite negative =>
      refine iff_of_true .infinite ?_
      cases negative <;> simp [Duration.ofSeconds]
  | notANumber => exact iff_of_true .notANumber (by simp [Duration.ofSeconds])

theorem requestedWait?_of_read {reading : Numeric.Reading} (htext : headerText? line = some text)
    (hread : Numeric.readLiteral (Text.trim text) = .ok reading) :
    requestedWait? line = (Duration.ofSeconds reading).toOption := by
  simp [requestedWait?, htext, hread, Except.toOption]

/-- A line that is no wait is one of which some step of the reading makes
nothing. -/
theorem requestedWait?_eq_none_iff : requestedWait? line = none ↔ Uncounted line := by
  cases htext : headerText? line with
  | none =>
      refine iff_of_true (by simp [requestedWait?, htext]) (.hidden fun text hshows => ?_)
      rw [headerText?_eq_some_iff.mpr hshows] at htext
      cases htext
  | some text =>
      have hsays : Says line (Text.trim text) := says_iff.mpr ⟨text, htext, rfl⟩
      cases hread : Numeric.readLiteral (Text.trim text) with
      | error fault =>
          refine iff_of_true (by simp [requestedWait?, htext, hread, Except.toOption])
            (.noNumber hsays fun reading hdenotes => ?_)
          rw [Numeric.readLiteral_eq_ok_iff.mpr hdenotes] at hread
          cases hread
      | ok reading =>
          rw [requestedWait?_of_read htext hread, ← noDuration_iff]
          constructor
          · exact .noDuration hsays (Numeric.readLiteral_eq_ok_iff.mp hread)
          · rintro (hhidden | ⟨hsays', hnone⟩ | ⟨hsays', hdenotes, hnone⟩)
            · exact absurd (headerText?_eq_some_iff.mp htext) (hhidden text)
            · obtain rfl := hsays.unique hsays'
              exact absurd (Numeric.readLiteral_eq_ok_iff.mp hread) (hnone reading)
            · obtain rfl := hsays.unique hsays'
              rw [Numeric.readLiteral_eq_ok_iff.mpr hdenotes, Except.ok.injEq] at hread
              exact hread ▸ hnone

/-- A whole number of seconds is taken as it stands. -/
theorem AsksWhole.asks {secs : ℕ} (h : AsksWhole line secs) :
    Asks line (Duration.ofSecs secs) := by
  obtain ⟨core, hsays, hnatural⟩ := h
  have hlt : secs < 2 ^ 53 := Nat.lt_of_le_pred (by decide) hnatural.le
  exact ⟨core, hsays, Settings.isDelay_of_isNatural hnatural hlt⟩

theorem uncounted_iff : Uncounted line ↔ ∀ wait, ¬ Asks line wait := by
  simp only [← requestedWait?_eq_none_iff, ← requestedWait?_eq_some_iff,
    Option.eq_none_iff_forall_ne_some, ne_eq]

end Line

section Delay

variable (policy : RetryPolicy) {line : List UInt8} (more : List (List UInt8))

theorem throttleDelay_le (lines : List (List UInt8)) :
    (policy.throttleDelay lines).nanos ≤ policy.delay.nanos := by
  rw [throttleDelay]
  split
  · next wait _ =>
    split
    · next hlt => exact hlt.le
    · exact le_rfl
  · exact le_rfl

theorem throttleDelay_asks {wait : Duration} (h : Asks line wait) :
    policy.throttleDelay (line :: more) =
      if wait.nanos < policy.delay.nanos then wait else policy.delay := by
  rw [throttleDelay, List.head?_cons, Option.bind_some, requestedWait?_eq_some_iff.mpr h]

theorem throttleDelay_uncounted (h : Uncounted line) :
    policy.throttleDelay (line :: more) = policy.delay := by
  rw [throttleDelay, List.head?_cons, Option.bind_some, requestedWait?_eq_none_iff.mpr h]

end Delay

end RetryPolicy

/-! ## The waits within a call -/

/-- The wait that an outcome makes necessary before the next attempt. -/
inductive Awaits (policy : RetryPolicy) : Outcome → Duration → Prop
  | throttled {r : Http.Response} : r.isThrottled = true →
      Awaits policy (.responded r) (policy.throttleDelay r.retryAfter)
  | unreachable : Awaits policy .unreachable policy.delay
  | timedOut : Awaits policy .timedOut policy.delay

/-- What is done in a call that makes an attempt: behind each attempt but
the last there is the wait that its outcome makes necessary, and behind the
last there is none. -/
inductive Paced (policy : RetryPolicy) : List Action → Prop
  | settled {a : Attempt} : a.outcome.isTransient = false → Paced policy [.attempted a]
  | spent {a : Attempt} {event : Event} : a.outcome.isTransient = true →
      Paced policy [.attempted a, .logged event]
  | again {a : Attempt} {event : Event} {wait : Duration} {later : List Action} :
      Awaits policy a.outcome wait → Paced policy later →
      Paced policy (.attempted a :: .logged event :: .waited wait :: later)

section Paced

variable {policy : RetryPolicy} {endpoint : Endpoint} {request : Request}

theorem Awaits.le {outcome : Outcome} {wait : Duration} (h : Awaits policy outcome wait) :
    wait.nanos ≤ policy.delay.nanos := by
  cases h with
  | throttled _ => exact policy.throttleDelay_le _
  | unreachable => exact le_rfl
  | timedOut => exact le_rfl

theorem awaits_of_again {attempt : Nat} {outcome : Outcome} {event : Event} {wait : Duration}
    (h : classify policy endpoint request attempt outcome = .again event wait) :
    Awaits policy outcome wait := by
  obtain ⟨r, rfl, hthrottled, rfl, -⟩ | ⟨rfl | rfl, rfl, -⟩ := classify_again_cases h
  · exact .throttled hthrottled
  · exact .unreachable
  · exact .timedOut

/-- Every call that may make an attempt keeps the pace. -/
theorem attemptsFrom_paced {left : Nat} (hleft : left ≠ 0) (made : Nat) (script : Http.Script) :
    Paced policy ((attemptsFrom policy endpoint request left made).run script).actions := by
  induction left generalizing made script with
  | zero => exact absurd rfl hleft
  | succ left ih =>
      cases ht : (script.answer request).1.isTransient with
      | false =>
          obtain ⟨result, hs⟩ := settle_of_not_transient endpoint request ht
          rw [attemptsFrom_settled policy left made script hs]
          exact .settled ht
      | true =>
          obtain ⟨event, wait, hagain⟩ :=
            classify_transient policy endpoint request (made + 1) ht
          rw [attemptsFrom_again policy left made script hagain]
          by_cases hlast : left = 0
          · subst hlast
            exact .spent ht
          · rw [if_neg hlast]
            exact .again (awaits_of_again hagain) (ih hlast ..)

namespace Paced

variable {actions : List Action}

theorem length_waits (h : Paced policy actions) :
    (actions.filterMap Action.wait?).length + 1 = (actions.filterMap Action.attempt?).length := by
  induction h with
  | settled _ => rfl
  | spent _ => rfl
  | again _ _ ih => simpa [List.filterMap_cons, Action.wait?, Action.attempt?] using ih

theorem wait_le (h : Paced policy actions) :
    ∀ wait ∈ actions.filterMap Action.wait?, wait.nanos ≤ policy.delay.nanos := by
  induction h with
  | settled _ => simp [Action.wait?]
  | spent _ => simp [Action.wait?]
  | again hawaits _ ih =>
      simp only [List.filterMap_cons, Action.wait?, List.forall_mem_cons]
      exact ⟨hawaits.le, ih⟩

/-- The waits come to no more than as many delays. -/
theorem sum_waits_le (h : Paced policy actions) :
    ((actions.filterMap Action.wait?).map (·.nanos)).sum ≤
      (actions.filterMap Action.wait?).length * policy.delay.nanos := by
  have hsum := List.sum_le_card_nsmul _ _ (List.forall_mem_map.mpr h.wait_le)
  rwa [List.length_map, nsmul_eq_mul, Nat.cast_id] at hsum

end Paced

end Paced

open RetryPolicy (Asks AsksWhole Uncounted)

/-- The wait after a throttled response is never longer than the delay of
the policy. It is the delay if there is no header line, or if the first one
is no wait; and if that asks for a wait, which it does if it is a whole
number of seconds below 2^53, it is the shorter of the two. In a call, which
waits between two attempts and not behind the last, the waits come to no
more than the delay for each attempt but the first. -/
theorem waits_exact_and_bounded (policy : RetryPolicy) :
    (∀ lines, (policy.throttleDelay lines).nanos ≤ policy.delay.nanos) ∧
    policy.throttleDelay [] = policy.delay ∧
    (∀ line more, Uncounted line → policy.throttleDelay (line :: more) = policy.delay) ∧
    (∀ line more wait, Asks line wait → policy.throttleDelay (line :: more) =
      if wait.nanos < policy.delay.nanos then wait else policy.delay) ∧
    (∀ line more secs, AsksWhole line secs → policy.throttleDelay (line :: more) =
      if (Duration.ofSecs secs).nanos < policy.delay.nanos then Duration.ofSecs secs
      else policy.delay) ∧
    (∀ line, Uncounted line ↔ ∀ wait, ¬ Asks line wait) ∧
    (0 < policy.maxAttempts → ∀ endpoint request script,
      let run := (sendRetrying policy endpoint request).run script
      Paced policy run.actions ∧ run.attempts.length ≤ policy.maxAttempts ∧
        run.waits.length + 1 = run.attempts.length ∧
        (run.waits.map (·.nanos)).sum ≤ (policy.maxAttempts - 1) * policy.delay.nanos) := by
  refine ⟨policy.throttleDelay_le, rfl, fun _ => policy.throttleDelay_uncounted,
    fun _ more _ => policy.throttleDelay_asks more,
    fun _ more _ hwhole => policy.throttleDelay_asks more hwhole.asks,
    fun _ => RetryPolicy.uncounted_iff, fun hpos endpoint request script => ?_⟩
  intro run
  have hpaced : Paced policy run.actions := attemptsFrom_paced hpos.ne' 0 script
  have hattempts : run.attempts.length ≤ policy.maxAttempts :=
    (attemptsFrom_exchange policy endpoint request policy.maxAttempts 0 script).length_le
  have hwaits : run.waits.length + 1 = run.attempts.length := hpaced.length_waits
  refine ⟨hpaced, hattempts, hwaits, ?_⟩
  calc (run.waits.map (·.nanos)).sum
      ≤ run.waits.length * policy.delay.nanos := hpaced.sum_waits_le
    _ ≤ (policy.maxAttempts - 1) * policy.delay.nanos :=
        Nat.mul_le_mul_right _ (by omega)

/-- A call waits for the seven seconds it is asked for and, where it is
asked for less than none, for its own ten. -/
theorem waits_of_call_throttled_twice :
    let policy : RetryPolicy := ⟨3, Duration.ofSecs 10⟩
    let seven := Utf8.encode " +007\t"
    let half := Utf8.encode "5e-1"
    let negative := Utf8.encode "-3"
    let base : Url := ⟨"http", .authority ⟨"", "", "status.test", none⟩, .segments [""], none, none⟩
    let script : Http.Script := [.responded ⟨429, [seven, negative], .complete []⟩,
      .responded ⟨503, [negative, half], .complete []⟩, .timedOut]
    let run := (sendRetrying policy .findSpan ⟨.get, base, none⟩).run script
    AsksWhole seven 7 ∧ policy.throttleDelay [seven, negative] = Duration.ofSecs 7 ∧
      Asks half (Duration.ofMillis 500) ∧ policy.throttleDelay [half] = Duration.ofMillis 500 ∧
      Uncounted negative ∧ policy.throttleDelay [negative, half] = policy.delay ∧
      0 < policy.maxAttempts ∧ Paced policy run.actions ∧
      run.waits = [Duration.ofSecs 7, Duration.ofSecs 10] ∧ run.attempts.length = 3 ∧
      (run.waits.map (·.nanos)).sum ≤ 2 * policy.delay.nanos := by
  intro policy seven half negative base script run
  have hseven : AsksWhole seven 7 :=
    ⟨"+007".toList, RetryPolicy.says_iff.mpr ⟨" +007\t".toList, by decide, by decide⟩,
      Numeric.readUpTo_eq_ok_iff.mp (by decide)⟩
  have hhalf : Asks half (Duration.ofMillis 500) :=
    RetryPolicy.requestedWait?_eq_some_iff.mp (by decide +kernel)
  have hnegative : Uncounted negative :=
    RetryPolicy.requestedWait?_eq_none_iff.mp (by decide +kernel)
  obtain ⟨-, -, hdelay, hasked, hwhole, -, hruns⟩ := waits_exact_and_bounded policy
  obtain ⟨hpaced, -, -, hsum⟩ := hruns (by decide) .findSpan ⟨.get, base, none⟩ script
  exact ⟨hseven, hwhole seven [negative] 7 hseven, hhalf, hasked half [] _ hhalf, hnegative,
    hdelay negative [half] hnegative, by decide, hpaced, by decide +kernel, by decide +kernel, hsum⟩

end Status

end UploadHooks
