import UploadHooks.Hook.Configuration
import UploadHooks.Proofs.Numeric.Literal
import UploadHooks.Proofs.Results
import UploadHooks.Proofs.Status.Exchange
import UploadHooks.Proofs.Text.Utf8

/-!
# What the variables of the status service come to

Three settings are numbers, and each is read on its own. Which number a
text denotes is said by the notations alone (`IsAttempts`, `IsDelay`,
`IsNatural`), and what a setting comes to by its variable alone (`Takes`,
`Refused`): the number that its text denotes with blanks around it dropped,
nothing if the text denotes none, and the default if the variable holds no
text. That last case covers more than a variable that is unset: a value
that is no UTF-8 is no text either, and such a value is defaulted without a
word (`undecodable_attempts_defaulted`).

The settings as a whole are there if none of the three is refused, and the
first refused one is named otherwise. There is always an attempt to make
then, so every call of a client with these settings makes one at least, and
no more than it was given.
-/

namespace UploadHooks

namespace Environment

/-- The variable is set, and to that text. -/
def Holds (env : Environment) (name text : String) : Prop :=
  env.bytes? name = some (Utf8.encode text)

theorem text?_eq_some_iff {env : Environment} {name text : String} :
    env.text? name = some text ↔ env.Holds name text := by
  rw [text?, Option.bind_eq_some_iff, Holds]
  simp only [Utf8.text?_eq_some_iff]
  constructor
  · rintro ⟨bytes, hbytes, rfl⟩
    exact hbytes
  · intro h
    exact ⟨_, h, rfl⟩

theorem text?_eq_none_iff {env : Environment} {name : String} :
    env.text? name = none ↔ ∀ text, ¬ env.Holds name text := by
  simp only [← text?_eq_some_iff, Option.eq_none_iff_forall_ne_some, ne_eq]

end Environment

namespace Status

namespace Settings

open Numeric (IsNatural IsFinite Binary64 max32 max64)

/-! ## One setting -/

/-- What a setting comes to, when texts denote values. -/
inductive Takes {α : Type} (env : Environment) (name : String)
    (denotes : List Char → α → Prop) (default : α) : α → Prop
  | default : (∀ text, ¬ env.Holds name text) → Takes env name denotes default default
  | given {text : String} {core : List Char} {value : α} : env.Holds name text →
      Text.Padded core text.toList → denotes core value → Takes env name denotes default value

/-- The variable holds a text that denotes nothing. -/
def Refused {α : Type} (env : Environment) (name : String) (denotes : List Char → α → Prop) :
    Prop :=
  ∃ text, env.Holds name text ∧
    ∀ core value, Text.Padded core text.toList → ¬ denotes core value

section Reading

variable {α : Type} {env : Environment} {name : String} {denotes : List Char → α → Prop}
  {default value : α} {read : List Char → Except ValueFault α}

theorem Takes.not_refused (h : Takes env name denotes default value) :
    ¬ Refused env name denotes := by
  rintro ⟨text, htext, hnone⟩
  rcases h with hunset | ⟨htext', hpadded, hvalue⟩
  · exact hunset text htext
  · have hsame := (Environment.text?_eq_some_iff.mpr htext).symm.trans
      (Environment.text?_eq_some_iff.mpr htext')
    obtain rfl := Option.some.inj hsame
    exact hnone _ _ hpadded hvalue

/-- `read` takes what a text denotes, the blanks around it dropped. -/
def Reads (read : List Char → Except ValueFault α) (denotes : List Char → α → Prop) : Prop :=
  ∀ text value, read (Text.trim text) = .ok value ↔
    ∃ core, Text.Padded core text ∧ denotes core value

theorem readOr_eq_ok_iff (hread : Reads read denotes) :
    readOr env name default read = .ok value ↔ Takes env name denotes default value := by
  rw [readOr]
  cases htext : env.text? name with
  | none =>
      have hunset := Environment.text?_eq_none_iff.mp htext
      constructor
      · intro h
        obtain rfl := Except.ok.inj h
        exact .default hunset
      · rintro (_ | ⟨hset, -, -⟩)
        · rfl
        · exact absurd hset (hunset _)
  | some text =>
      have hset := Environment.text?_eq_some_iff.mp htext
      simp only [mapError_eq_ok_iff, hread text.toList value]
      constructor
      · rintro ⟨core, hpadded, hvalue⟩
        exact .given hset hpadded hvalue
      · rintro (hunset | ⟨hset', hpadded, hvalue⟩)
        · exact absurd hset (hunset _)
        · rw [Environment.text?_eq_some_iff.mpr hset', Option.some.injEq] at htext
          obtain rfl := htext
          exact ⟨_, hpadded, hvalue⟩

/-- Either there is a value, or the variable is refused by its name. -/
theorem readOr_cases (env : Environment) (name : String) (default : α)
    (hread : Reads read denotes) :
    (∃ value, readOr env name default read = .ok value ∧ ¬ Refused env name denotes) ∨
      ∃ fault, readOr env name default read = .error (.invalidValue name fault) ∧
        Refused env name denotes := by
  cases htext : env.text? name with
  | none =>
      have hok : readOr env name default read = .ok default := by rw [readOr, htext]
      exact .inl ⟨default, hok, ((readOr_eq_ok_iff hread).mp hok).not_refused⟩
  | some text =>
      have hset := Environment.text?_eq_some_iff.mp htext
      cases hvalue : read (Text.trim text.toList) with
      | ok value =>
          have hok : readOr env name default read = .ok value := by
            simp only [readOr, htext, hvalue, Except.mapError]
          exact .inl ⟨value, hok, ((readOr_eq_ok_iff hread).mp hok).not_refused⟩
      | error fault =>
          refine .inr ⟨fault, ?_, text, hset, fun core value hpadded hdenotes => ?_⟩
          · simp only [readOr, htext, hvalue, Except.mapError]
          · have hok := (hread text.toList value).mpr ⟨core, hpadded, hdenotes⟩
            rw [hvalue] at hok
            cases hok

end Reading

/-! ## The three notations -/

/-- A number of attempts is a positive natural number that fits 32 bits. -/
def IsAttempts (text : List Char) (n : ℕ) : Prop := IsNatural max32 text n ∧ n ≠ 0

/-- A delay is a decimal number of seconds. The nearest number of the 64-bit
format counts, which is neither below zero nor too large for a duration,
rounded to the nanosecond. -/
def IsDelay (text : List Char) (d : Duration) : Prop :=
  ∃ x : Binary64, IsFinite text x ∧ (x.negative = true → x.magnitude.value = 0) ∧
    x.magnitude.value < 2 ^ 64 ∧ Numeric.IsNearest (x.magnitude.value * 10 ^ 9) d.nanos

theorem reads_natural (limit : ℕ) : Reads (readNatural limit) (IsNatural limit) := by
  intro text n
  rw [readNatural, mapError_eq_ok_iff]
  exact Numeric.readUpTo_trim_eq_ok_iff

theorem readAttempts_eq_ok_iff {text : List Char} {n : ℕ} :
    readAttempts text = .ok n ↔ readNatural max32 text = .ok n ∧ n ≠ 0 := by
  rw [readAttempts]
  cases hread : readNatural max32 text with
  | error fault => simp [bind, Except.bind]
  | ok m =>
      by_cases hm : m = 0
      · subst hm
        refine iff_of_false (by simp [bind, Except.bind, throw, throwThe, MonadExceptOf.throw]) ?_
        rintro ⟨hzero, hpos⟩
        exact hpos (Except.ok.inj hzero).symm
      · simp only [bind, Except.bind, if_neg hm]
        constructor
        · intro h
          obtain rfl := Except.ok.inj h
          exact ⟨rfl, hm⟩
        · rintro ⟨h, -⟩
          exact h

theorem reads_attempts : Reads readAttempts IsAttempts := by
  intro text n
  rw [readAttempts_eq_ok_iff, reads_natural max32 text n]
  constructor
  · rintro ⟨⟨core, hpadded, hcore⟩, hpos⟩
    exact ⟨core, hpadded, hcore, hpos⟩
  · rintro ⟨core, hpadded, hcore, hpos⟩
    exact ⟨⟨core, hpadded, hcore⟩, hpos⟩

theorem isBelowZero_eq_false_iff {x : Binary64} :
    x.isBelowZero = false ↔ (x.negative = true → x.magnitude.value = 0) := by
  have hzero : x.magnitude.value = 0 ↔ x.magnitude.isZero = true := by
    rw [Numeric.Magnitude.value, mul_eq_zero, Nat.cast_eq_zero, Numeric.Magnitude.isZero,
      beq_iff_eq]
    exact or_iff_left (Numeric.Magnitude.two_zpow_pos _).ne'
  rw [hzero, Binary64.isBelowZero]
  cases x.negative <;> cases x.magnitude.isZero <;> simp

/-- Which numbers of seconds are durations. -/
theorem ofSeconds_eq_ok_iff {reading : Numeric.Reading} {d : Duration} :
    Duration.ofSeconds reading = .ok d ↔ ∃ x, reading = .finite x ∧
      (x.negative = true → x.magnitude.value = 0) ∧ x.magnitude.value < 2 ^ 64 ∧
      Numeric.IsNearest (x.magnitude.value * 10 ^ 9) d.nanos := by
  cases reading with
  | notANumber => simp [Duration.ofSeconds]
  | infinite negative => cases negative <;> simp [Duration.ofSeconds]
  | finite x =>
      have hden : (0 : ℚ) < x.magnitude.ratio.2 := by
        exact_mod_cast Numeric.Magnitude.ratio_pos x.magnitude
      have hlimit : Duration.secsLimit * x.magnitude.ratio.2 ≤ x.magnitude.ratio.1 ↔
          ¬ x.magnitude.value < 2 ^ 64 := by
        rw [← Numeric.Magnitude.ratio_eq, not_lt, le_div_iff₀ hden, Duration.secsLimit]
        exact_mod_cast Iff.rfl
      have hnearest := Numeric.roundHalfEven_isNearest
        (x.magnitude.ratio.1 * Duration.nanosPerSecond) (Numeric.Magnitude.ratio_pos x.magnitude)
      have hscaled : ((x.magnitude.ratio.1 * Duration.nanosPerSecond : ℕ) : ℚ) /
          x.magnitude.ratio.2 = x.magnitude.value * 10 ^ 9 := by
        rw [← Numeric.Magnitude.ratio_eq, Duration.nanosPerSecond]
        push_cast
        ring
      rw [hscaled] at hnearest
      simp only [Duration.ofSeconds, hlimit]
      by_cases hbelow : x.isBelowZero = true
      · rw [if_pos hbelow]
        refine iff_of_false (by simp) ?_
        rintro ⟨_, ⟨⟩, hsign, -⟩
        rw [isBelowZero_eq_false_iff.mpr hsign] at hbelow
        cases hbelow
      · have hsign := isBelowZero_eq_false_iff.mp (Bool.not_eq_true _ ▸ hbelow)
        rw [if_neg hbelow]
        by_cases hlt : x.magnitude.value < 2 ^ 64
        · rw [if_neg (not_not.mpr hlt)]
          constructor
          · intro h
            obtain rfl := Except.ok.inj h
            exact ⟨x, rfl, hsign, hlt, hnearest⟩
          · rintro ⟨_, ⟨⟩, -, -, hnanos⟩
            rw [hnearest.unique hnanos]
        · rw [if_pos hlt]
          refine iff_of_false (by simp) ?_
          rintro ⟨_, ⟨⟩, -, hlt', -⟩
          exact hlt hlt'

theorem reads_delay : Reads readDelay IsDelay := by
  intro text d
  have hclean : ∀ core, IsDelay core d → ∀ c ∈ core, Text.isBlank c = false := by
    rintro core ⟨x, hx, -⟩
    exact hx.clean
  rw [Text.exists_padded_iff hclean, readDelay, bind_eq_ok_iff]
  simp only [mapError_eq_ok_iff, ofSeconds_eq_ok_iff]
  constructor
  · rintro ⟨reading, hread, x, rfl, hx⟩
    exact ⟨x, Numeric.readLiteral_eq_finite_iff.mp hread, hx⟩
  · rintro ⟨x, hfinite, hx⟩
    exact ⟨.finite x, Numeric.readLiteral_eq_finite_iff.mpr hfinite, x, rfl, hx⟩

/-! ## All settings -/

/-- Each number is what its variable comes to. -/
structure Follows (settings : Settings) (env : Environment) : Prop where
  attempts : Takes env attemptsVariable IsAttempts 6 settings.policy.maxAttempts
  delay : Takes env delayVariable IsDelay (Duration.ofSecs 1) settings.policy.delay
  timeout : Takes env timeoutVariable (IsNatural max64) 30 settings.timeoutSecs

/-- The variable is refused, and none before it is. -/
inductive FirstRefused (env : Environment) : String → Prop
  | attempts : Refused env attemptsVariable IsAttempts → FirstRefused env attemptsVariable
  | delay : ¬ Refused env attemptsVariable IsAttempts → Refused env delayVariable IsDelay →
      FirstRefused env delayVariable
  | timeout : ¬ Refused env attemptsVariable IsAttempts → ¬ Refused env delayVariable IsDelay →
      Refused env timeoutVariable (IsNatural max64) → FirstRefused env timeoutVariable

theorem FirstRefused.unique {env : Environment} {name name' : String}
    (h : FirstRefused env name) (h' : FirstRefused env name') : name = name' := by
  rcases h with h | ⟨h₁, h⟩ | ⟨h₁, h₂, h⟩ <;> rcases h' with h' | ⟨h₁', h'⟩ | ⟨h₁', h₂', h'⟩ <;>
    first | rfl | contradiction

theorem Takes.attempts_pos {env : Environment} {name : String} {n : ℕ}
    (h : Takes env name IsAttempts 6 n) : 0 < n := by
  rcases h with _ | ⟨-, -, hvalue⟩
  · decide
  · exact Nat.pos_of_ne_zero hvalue.2

section Url

variable {env : Environment} {url : String} {base : Url}

/-- With a URL in place the three numbers decide. -/
theorem ofEnvironment_of_url (hurl : env.Holds urlVariable url) (hbase : Url.parse url = .ok base) :
    ofEnvironment env = (do
      let maxAttempts ← readOr env attemptsVariable 6 readAttempts
      let delay ← readOr env delayVariable (Duration.ofSecs 1) readDelay
      let timeoutSecs ← readOr env timeoutVariable 30 (readNatural max64)
      return ⟨base, ⟨maxAttempts, delay⟩, timeoutSecs⟩) := by
  rw [ofEnvironment, Environment.text?_eq_some_iff.mpr hurl]
  simp only [Option.elim_some, hbase, Except.mapError, bind, Except.bind]
  rfl

theorem ofEnvironment_eq_ok_iff (hurl : env.Holds urlVariable url)
    (hbase : Url.parse url = .ok base) (settings : Settings) :
    ofEnvironment env = .ok settings ↔ settings.base = base ∧ settings.Follows env := by
  rw [ofEnvironment_of_url hurl hbase]
  simp only [bind_eq_ok_iff, readOr_eq_ok_iff reads_attempts, readOr_eq_ok_iff reads_delay,
    readOr_eq_ok_iff (reads_natural max64)]
  constructor
  · rintro ⟨maxAttempts, hattempts, delay, hdelay, timeoutSecs, htimeout, h⟩
    obtain rfl := Except.ok.inj h
    exact ⟨rfl, hattempts, hdelay, htimeout⟩
  · obtain ⟨base', ⟨maxAttempts, delay⟩, timeoutSecs⟩ := settings
    rintro ⟨rfl, hattempts, hdelay, htimeout⟩
    exact ⟨maxAttempts, hattempts, delay, hdelay, timeoutSecs, htimeout, rfl⟩

/-- There are settings and no variable is refused, or the first refused one
is named. -/
theorem ofEnvironment_cases (hurl : env.Holds urlVariable url)
    (hbase : Url.parse url = .ok base) :
    (∃ settings, ofEnvironment env = .ok settings ∧ ∀ name, ¬ FirstRefused env name) ∨
      ∃ name fault, ofEnvironment env = .error (.invalidValue name fault) ∧
        FirstRefused env name := by
  rw [ofEnvironment_of_url hurl hbase]
  rcases readOr_cases env attemptsVariable 6 reads_attempts with
    ⟨maxAttempts, hok, hattempts⟩ | ⟨fault, herror, hattempts⟩
  · rw [hok]
    rcases readOr_cases env delayVariable (Duration.ofSecs 1) reads_delay with
      ⟨delay, hok, hdelay⟩ | ⟨fault, herror, hdelay⟩
    · rw [hok]
      rcases readOr_cases env timeoutVariable 30 (reads_natural max64) with
        ⟨timeoutSecs, hok, htimeout⟩ | ⟨fault, herror, htimeout⟩
      · rw [hok]
        refine .inl ⟨_, rfl, fun name h => ?_⟩
        rcases h with h | ⟨-, h⟩ | ⟨-, -, h⟩
        · exact hattempts h
        · exact hdelay h
        · exact htimeout h
      · rw [herror]
        exact .inr ⟨timeoutVariable, fault, rfl, .timeout hattempts hdelay htimeout⟩
    · rw [herror]
      exact .inr ⟨delayVariable, fault, rfl, .delay hattempts hdelay⟩
  · rw [herror]
    exact .inr ⟨attemptsVariable, fault, rfl, .attempts hattempts⟩

/-- With a valid URL the settings are what the texts of their variables
denote, and a default stands where a variable holds no text; or else the
first variable whose text denotes nothing is named. A call of a client with
the settings then makes at least one attempt and at most as many as they
allow. -/
theorem settings_are_what_texts_denote (hurl : env.Holds urlVariable url)
    (hbase : Url.parse url = .ok base) :
    (∀ settings, ofEnvironment env = .ok settings ↔
      settings.base = base ∧ settings.Follows env) ∧
    (∀ name, (∃ fault, ofEnvironment env = .error (.invalidValue name fault)) ↔
      FirstRefused env name) ∧
    ((∃ settings, ofEnvironment env = .ok settings) ∨
      ∃ name fault, ofEnvironment env = .error (.invalidValue name fault)) ∧
    ∀ settings, ofEnvironment env = .ok settings → 0 < settings.policy.maxAttempts ∧
      (base.canBeBase = true → ∀ (call : Call) (script : Http.Script),
        let attempts := (((Hook.clientOf settings).send call).run script).attempts
        0 < attempts.length ∧ attempts.length ≤ settings.policy.maxAttempts ∧
          ∀ a ∈ attempts, call.request? base = some a.request) := by
  refine ⟨ofEnvironment_eq_ok_iff hurl hbase, fun name => ?_, ?_, fun settings hok => ?_⟩
  · rcases ofEnvironment_cases hurl hbase with
      ⟨settings, hok, hnone⟩ | ⟨name', fault, herror, hfirst⟩
    · refine iff_of_false ?_ (hnone name)
      rintro ⟨fault, herror⟩
      rw [hok] at herror
      cases herror
    · constructor
      · rintro ⟨fault', herror'⟩
        rw [herror] at herror'
        cases herror'
        exact hfirst
      · intro h
        obtain rfl := h.unique hfirst
        exact ⟨fault, herror⟩
  · rcases ofEnvironment_cases hurl hbase with ⟨settings, hok, -⟩ | ⟨name, fault, herror, -⟩
    · exact .inl ⟨settings, hok⟩
    · exact .inr ⟨name, fault, herror⟩
  · obtain ⟨rfl, hfollow⟩ := (ofEnvironment_eq_ok_iff hurl hbase settings).mp hok
    have hpos := hfollow.attempts.attempts_pos
    refine ⟨hpos, fun hcan call script => ?_⟩
    have hexchange := Client.send_exchanges (Hook.clientOf settings) call script hcan
    exact ⟨List.length_pos_iff.mpr (hexchange.ne_nil hpos), hexchange.length_le,
      hexchange.request_eq⟩

end Url

/-- Blanks, a missing digit before the point and a plus sign do not matter. -/
theorem settings_of_padded_numbers :
    let env : Environment := [("PS_API_URL", Utf8.encode "http://status.test/"),
      ("PS_API_MAX_RETRIES", Utf8.encode " 3\n"), ("PS_API_RETRY_DELAY_SECS", Utf8.encode "+.25")]
    let base : Url := ⟨"http", .authority ⟨"", "", "status.test", none⟩, .segments [""], none, none⟩
    let settings : Settings := ⟨base, ⟨3, ⟨250000000⟩⟩, 30⟩
    env.Holds urlVariable "http://status.test/" ∧ Url.parse "http://status.test/" = .ok base ∧
      ofEnvironment env = .ok settings ∧ settings.Follows env ∧
      ∀ (call : Call) (script : Http.Script),
        0 < (((Hook.clientOf settings).send call).run script).attempts.length ∧
          (((Hook.clientOf settings).send call).run script).attempts.length ≤ 3 := by
  intro env base settings
  have hurl : env.Holds urlVariable "http://status.test/" := by
    unfold Environment.Holds
    decide +kernel
  have hbase : Url.parse "http://status.test/" = .ok base := by decide +kernel
  have hok : ofEnvironment env = .ok settings := by decide +kernel
  obtain ⟨htexts, -, -, hcalls⟩ := settings_are_what_texts_denote hurl hbase
  refine ⟨hurl, hbase, hok, ((htexts settings).mp hok).2, fun call script => ?_⟩
  obtain ⟨hsome, hmany, -⟩ := (hcalls settings hok).2 rfl call script
  exact ⟨hsome, hmany⟩

/-- A number of attempts that is no UTF-8 is set and has no value, and yet
the default stands in its place. -/
theorem undecodable_attempts_defaulted :
    let env : Environment := [("PS_API_URL", Utf8.encode "http://status.test/"),
      ("PS_API_MAX_RETRIES", [0x39, 0xFF])]
    env.bytes? attemptsVariable = some [0x39, 0xFF] ∧
      (∀ text, ¬ env.Holds attemptsVariable text) ∧
      ∃ settings, ofEnvironment env = .ok settings ∧ settings.policy.maxAttempts = 6 := by
  intro env
  have hset : env.bytes? attemptsVariable = some [0x39, 0xFF] := by decide +kernel
  refine ⟨hset, Environment.text?_eq_none_iff.mp (by decide +kernel), ?_⟩
  have hok : (ofEnvironment env).toOption.map (·.policy.maxAttempts) = some 6 := by decide +kernel
  obtain ⟨settings, hsettings, hattempts⟩ := Option.map_eq_some_iff.mp hok
  refine ⟨settings, ?_, hattempts⟩
  cases henv : ofEnvironment env with
  | error fault => simp [henv, Except.toOption] at hsettings
  | ok settings' =>
      rw [henv] at hsettings
      exact congrArg _ (Option.some.inj hsettings)

end Settings

end Status

end UploadHooks
