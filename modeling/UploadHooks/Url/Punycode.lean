/-!
# Punycode

A label with characters beyond ASCII is written in ASCII: first its ASCII
characters, then a hyphen if there are any, then where each of the others
is inserted, in ascending order, as a difference from the last insertion.
A difference is written with digits whose weights adapt to the size of the
differences seen.

`encode` writes a label so and `decode?` reads it back. Both keep the
same account of the differences: `threshold` bounds a digit, and `adapt`
gives the bias of the next difference.
-/

namespace UploadHooks

namespace Url

namespace Punycode

/-! ## Differences -/

/-- `a` to `z`, then `0` to `9`. -/
def digit (d : Nat) : Char :=
  if d < 26 then Char.ofNat (0x61 + d) else Char.ofNat (0x30 + (d - 26))

/-- The value of a lower-case digit. -/
def digitValue? (c : Char) : Option Nat :=
  if c.isLower then some (c.toNat - 0x61)
  else if c.isDigit then some (c.toNat - 0x30 + 26)
  else none

/-- The weight limit of the digit at place `k`. -/
def threshold (k bias : Nat) : Nat := if k ≤ bias then 1 else min 26 (k - bias)

theorem threshold_pos (k bias : Nat) : 1 ≤ threshold k bias := by
  unfold threshold; split <;> omega

theorem threshold_le (k bias : Nat) : threshold k bias ≤ 26 := by
  unfold threshold; split <;> omega

def settle (delta k : Nat) : Nat :=
  if 455 < delta then settle (delta / 35) (k + 36) else k + 36 * delta / (delta + 38)
  termination_by delta

/-- The bias after a difference has been written. -/
def adapt (delta count : Nat) (first : Bool) : Nat :=
  let d := if first then delta / 700 else delta / 2
  settle (d + d / count) 0

/-! ## Writing -/

/-- A difference as digits, the least significant first. -/
def differenceDigits (bias k q : Nat) : List Char :=
  let t := threshold k bias
  if q < t then [digit q]
  else digit (t + (q - t) % (36 - t)) :: differenceDigits bias (k + 36) ((q - t) / (36 - t))
  termination_by q
  decreasing_by
    have h1 := threshold_pos k bias
    have h2 := threshold_le k bias
    exact Nat.lt_of_le_of_lt (Nat.div_le_self _ _) (by omega)

structure State where
  written : List Char
  delta : Nat
  bias : Nat
  handled : Nat

/-- One character of the label while those with number `n` are inserted. -/
def visit (basic n : Nat) (s : State) (c : Char) : State :=
  if c.toNat < n then { s with delta := s.delta + 1 }
  else if c.toNat = n then
    { written := s.written ++ differenceDigits s.bias 36 s.delta
      delta := 0
      bias := adapt s.delta (s.handled + 1) (s.handled == basic)
      handled := s.handled + 1 }
  else s

/-- Inserts the characters with the numbers `ns`, ascending, from `n` on. -/
def insertAll (label : List Char) (basic : Nat) : List Nat → Nat → State → State
  | [], _, s => s
  | m :: ns, n, s =>
    let s := { s with delta := s.delta + (m - n) * (s.handled + 1) }
    let s := label.foldl (visit basic m) s
    insertAll label basic ns (m + 1) { s with delta := s.delta + 1 }

def encode (label : List Char) : List Char :=
  let basic := label.filter (fun c => c.toNat < 0x80)
  let others := (label.map Char.toNat).filter (0x80 ≤ ·)
  let numbers := (others.mergeSort (· ≤ ·)).eraseDups
  let start := if basic.isEmpty then [] else basic ++ ['-']
  (insertAll label basic.length numbers 0x80 ⟨start, 0, 72, basic.length⟩).written

/-! ## Reading -/

/-- Weights and sums stay below this. -/
def bound : Nat := 0x100000000

/-- Adds a difference to `i`: the sum, and the text behind the digits. -/
def readDifference (bias : Nat) : List Char → Nat → Nat → Nat → Option (Nat × List Char)
  | [], _, _, _ => none
  | c :: rest, k, weight, i =>
    let t := threshold k bias
    match digitValue? c with
    | none => none
    | some d =>
      if bound ≤ i + d * weight then none
      else if d < t then some (i + d * weight, rest)
      else if bound ≤ weight * (36 - t) then none
      else readDifference bias rest (k + 36) (weight * (36 - t)) (i + d * weight)

/-- A difference has at least one digit. -/
theorem readDifference_length {bias : Nat} {text : List Char} {k weight i : Nat}
    {sum : Nat} {rest : List Char}
    (h : readDifference bias text k weight i = some (sum, rest)) : rest.length < text.length := by
  induction text generalizing k weight i with
  | nil => simp [readDifference] at h
  | cons c text ih =>
    simp only [readDifference] at h
    split at h
    · simp at h
    · split at h
      · simp at h
      · split at h
        · simp only [Option.some.injEq, Prod.mk.injEq] at h
          simp [← h.2]
        · split at h
          · simp at h
          · have := ih h
            simp only [List.length_cons]
            omega

/-- Inserts what the differences say. The next insertion is not before
place `i`, and its character not before `n`. -/
def readInsertions (bias n i : Nat) (done : List Char) (text : List Char) : Option (List Char) :=
  if text.isEmpty then some done
  else
    match _h : readDifference bias text 36 1 i with
    | none => none
    | some (sum, rest) =>
      let count := done.length + 1
      let number := n + sum / count
      if number.isValidChar then
        readInsertions (adapt (sum - i) count (i == 0)) number (sum % count + 1)
          (done.insertIdx (sum % count) (Char.ofNat number)) rest
      else none
  termination_by text.length
  decreasing_by exact readDifference_length _h

/-- The text before the last hyphen, and the text behind it. A hyphen in
front of everything separates nothing. -/
def splitBasic (text : List Char) : List Char × List Char :=
  let back := (text.reverse.takeWhile (· != '-')).reverse
  if back.length + 1 < text.length then (text.take (text.length - back.length - 1), back)
  else ([], text)

/-- A lower-case label from what has been written for it. -/
def decode? (text : List Char) : Option (List Char) :=
  let (basic, differences) := splitBasic text
  readInsertions 72 0x80 0 basic differences

end Punycode

end Url

end UploadHooks
