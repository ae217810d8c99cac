import UploadHooks.Status.Policy
import UploadHooks.Text.Utf8
import UploadHooks.Url.Parse

/-!
# Settings of the status service

Settings come from named variables, whose values are bytes. A variable
whose value is not UTF-8 counts as unset.

The service's URL has to be given; the number of attempts, the delay
between them and the time-out have defaults. A setting that is given as
text is read as a whole, blanks around it aside, and never replaced by its
default: a text that cannot be read is an error, the first one in the
order URL, attempts, delay, time-out. A value that is no text at all is
replaced, since its variable counts as unset.
-/

namespace UploadHooks

/-! ## The environment -/

abbrev Environment := List (String × List UInt8)

namespace Environment

def bytes? (env : Environment) (name : String) : Option (List UInt8) := env.lookup name

def text? (env : Environment) (name : String) : Option String :=
  (env.bytes? name).bind Utf8.text?

end Environment

/-! ## Settings -/

namespace Status

structure Settings where
  base : Url
  policy : RetryPolicy
  timeoutSecs : Nat
  deriving DecidableEq, Repr

namespace Settings

def urlVariable : String := "PS_API_URL"

def attemptsVariable : String := "PS_API_MAX_RETRIES"

def delayVariable : String := "PS_API_RETRY_DELAY_SECS"

def timeoutVariable : String := "PS_API_TIMEOUT_SECS"

def variableNames : List String := [urlVariable, attemptsVariable, delayVariable, timeoutVariable]

def standardTimeout : Nat := 30

/-- Why a value is refused. -/
inductive ValueFault where
  | natural (fault : Numeric.NaturalFault)
  | literal (fault : Numeric.LiteralFault)
  | duration (fault : Duration.Fault)
  | zeroAttempts
  deriving DecidableEq, Repr

def ValueFault.message : ValueFault → String
  | .natural fault => fault.message
  | .literal fault => fault.message
  | .duration fault => fault.message
  | .zeroAttempts => "must be at least 1"

inductive Fault where
  | missingUrl
  | invalidUrl (name : String) (fault : Url.Fault)
  | invalidValue (name : String) (fault : ValueFault)
  deriving DecidableEq, Repr

def Fault.message : Fault → String
  | .missingUrl => "PS_API_URL environment variable is required"
  | .invalidUrl name fault => "invalid URL for " ++ name ++ ": " ++ fault.message
  | .invalidValue name fault => "invalid value for " ++ name ++ ": " ++ fault.message

/-- A variable read by `read`, or its default when it holds no text: when it
is unset, or its value is not UTF-8. -/
def readOr {α : Type} (env : Environment) (name : String) (default : α)
    (read : List Char → Except ValueFault α) : Except Fault α :=
  match env.text? name with
  | none => .ok default
  | some text => (read (Text.trim text.toList)).mapError (.invalidValue name)

def readNatural (limit : Nat) (text : List Char) : Except ValueFault Nat :=
  (Numeric.readUpTo limit text).mapError .natural

/-- A number of attempts, of which there has to be one. -/
def readAttempts (text : List Char) : Except ValueFault Nat := do
  let n ← readNatural Numeric.max32 text
  if n = 0 then throw .zeroAttempts
  return n

/-- A delay in seconds. -/
def readDelay (text : List Char) : Except ValueFault Duration := do
  let reading ← (Numeric.readLiteral text).mapError .literal
  (Duration.ofSeconds reading).mapError .duration

def ofEnvironment (env : Environment) : Except Fault Settings := do
  let raw ← (env.text? urlVariable).elim (.error .missingUrl) .ok
  let base ← (Url.parse raw).mapError (.invalidUrl urlVariable)
  let maxAttempts ← readOr env attemptsVariable RetryPolicy.standard.maxAttempts readAttempts
  let delay ← readOr env delayVariable RetryPolicy.standard.delay readDelay
  let timeoutSecs ← readOr env timeoutVariable standardTimeout (readNatural Numeric.max64)
  return ⟨base, ⟨maxAttempts, delay⟩, timeoutSecs⟩

/-- Settings for a service close by: short delays and a short time-out. -/
def nearby (address : String) : Except Fault Settings := do
  let base ← (Url.parse address).mapError (.invalidUrl address)
  return ⟨base, ⟨RetryPolicy.standard.maxAttempts, Duration.ofMillis 10⟩, 5⟩

end Settings

end Status

end UploadHooks
