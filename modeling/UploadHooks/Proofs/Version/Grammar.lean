import Mathlib.Data.List.GetD
import UploadHooks.Proofs.Version.Order

/-!
# The grammar of versions

What the reader makes of a text is said piece by piece. A text is a version
exactly if every piece between its points is a number with blanks around
it. The version then has the number of each piece at the position of that
piece and zeros from there on. Since no component behind the last one that
is kept can be told from a zero, that is all there is to know about it
(`eq_of_component`). Otherwise the fault is that of the first piece that is
no number, trimmed; a text of blanks alone is told apart before.
-/

namespace UploadHooks

namespace Version

open Numeric (max64 readUpTo)

/-! ## Components by position -/

section Components

variable {numbers numbers' : List Nat}

/-- Zeros at the end are not seen. -/
theorem getD_append_zeros (numbers : List Nat) (zeros i : Nat) :
    (numbers ++ List.replicate zeros 0).getD i 0 = numbers.getD i 0 := by
  rcases Nat.lt_or_ge i numbers.length with hlt | hge
  · exact List.getD_append _ _ _ _ hlt
  · rw [List.getD_append_right _ _ _ _ hge, List.getD_eq_default _ _ hge]
    rcases Nat.lt_or_ge (i - numbers.length) zeros with hlt | hge
    · exact List.getD_replicate 0 hlt
    · exact List.getD_eq_default _ _ (by rwa [List.length_replicate])

theorem getD_dropTrailingZeros (numbers : List Nat) (i : Nat) :
    (dropTrailingZeros numbers).getD i 0 = numbers.getD i 0 := by
  obtain ⟨zeros, hzeros⟩ := exists_eq_append_zeros numbers
  rw [← getD_append_zeros (dropTrailingZeros numbers) zeros i, ← hzeros]

/-- Two lists have the same numbers at every position exactly if they are
equal up to zeros at the end. -/
theorem dropTrailingZeros_eq_iff_getD :
    dropTrailingZeros numbers = dropTrailingZeros numbers' ↔
      ∀ i, numbers.getD i 0 = numbers'.getD i 0 := by
  constructor
  · intro h i
    rw [← getD_dropTrailingZeros numbers, h, getD_dropTrailingZeros]
  · intro h
    obtain ⟨width, hwidth, hwidth', -⟩ := exists_width numbers numbers' []
    rw [dropTrailingZeros_eq_iff hwidth hwidth']
    have hlength {ns : List Nat} (hns : ns.length ≤ width) : (pad width ns).length = width := by
      rw [pad, List.length_append, List.length_replicate]
      omega
    refine List.ext_getElem ((hlength hwidth).trans (hlength hwidth').symm) fun i hi hi' => ?_
    rw [← List.getD_eq_getElem _ 0 hi, ← List.getD_eq_getElem _ 0 hi', pad, pad,
      getD_append_zeros, getD_append_zeros, h i]

end Components

theorem component_mk (text : String) (numbers : List Nat) (i : Nat) :
    component ⟨text, dropTrailingZeros numbers⟩ i = numbers.getD i 0 :=
  getD_dropTrailingZeros numbers i

theorem major_eq_component (v : Version) : v.major = v.component 0 := by
  unfold major component
  cases v.components <;> rfl

theorem last_dropTrailingZeros (numbers : List Nat) :
    (dropTrailingZeros numbers).getLast? ≠ some 0 := by
  intro hlast
  rw [dropTrailingZeros, List.getLast?_reverse] at hlast
  have hnot := List.head?_dropWhile_not (· == 0) numbers.reverse
  rw [hlast] at hnot
  simp at hnot

theorem dropTrailingZeros_of_last {numbers : List Nat} (h : numbers.getLast? ≠ some 0) :
    dropTrailingZeros numbers = numbers := by
  rcases List.eq_nil_or_concat numbers with rfl | ⟨front, last, rfl⟩
  · rfl
  · rw [List.concat_eq_append] at h ⊢
    have hlast : last ≠ 0 := by simpa using h
    rw [dropTrailingZeros, List.reverse_append, List.reverse_singleton, List.singleton_append,
      List.dropWhile_cons_of_neg (by simpa using hlast), List.reverse_cons, List.reverse_reverse]

/-- A version is its text and what stands at each position. -/
theorem eq_of_component {v w : Version} (htext : v.text = w.text)
    (hv : v.components.getLast? ≠ some 0) (hw : w.components.getLast? ≠ some 0)
    (h : ∀ i, v.component i = w.component i) : v = w := by
  have hcomponents : dropTrailingZeros v.components = dropTrailingZeros w.components :=
    dropTrailingZeros_eq_iff_getD.mpr h
  rw [dropTrailingZeros_of_last hv, dropTrailingZeros_of_last hw] at hcomponents
  cases v
  cases w
  exact congr (congrArg mk htext) hcomponents

/-- Equal versions have the same number at every position. -/
theorem same_iff_component {v w : Version} (hv : v.components.getLast? ≠ some 0)
    (hw : w.components.getLast? ≠ some 0) :
    same v w = true ↔ ∀ i, v.component i = w.component i := by
  calc same v w = true
      ↔ v.components = w.components := beq_iff_eq
    _ ↔ dropTrailingZeros v.components = dropTrailingZeros w.components := by
        rw [dropTrailingZeros_of_last hv, dropTrailingZeros_of_last hw]
    _ ↔ ∀ i, v.component i = w.component i := dropTrailingZeros_eq_iff_getD

theorem le_of_same {v w : Version} (h : same v w = true) : le v w = true := by
  have hcomponents : v.components = w.components := beq_iff_eq.mp h
  rw [le, compare, hcomponents]
  exact le_refl w

/-! ## Pieces -/

/-- The piece is a number with blanks around it. -/
def IsNumeric (piece : List Char) : Prop := ∃ n, SpellsNumber piece n

/-- The version has the numbers of these pieces, and zeros behind them. -/
structure HasNumbers (v : Version) (written : List (List Char)) : Prop where
  number : ∀ i piece, written[i]? = some piece → SpellsNumber piece (v.component i)
  zero : ∀ i, written.length ≤ i → v.component i = 0

/-- The first of the pieces that is no number has that core. -/
def FirstOffending (written : List (List Char)) (core : List Char) : Prop :=
  ∃ front piece back, written = front ++ piece :: back ∧ (∀ p ∈ front, IsNumeric p) ∧
    ¬ IsNumeric piece ∧ Text.Stripped core piece

theorem SpellsNumber.unique {piece : List Char} {n m : Nat} (h : SpellsNumber piece n)
    (h' : SpellsNumber piece m) : n = m :=
  Except.ok.inj ((Numeric.readUpTo_trim_eq_ok_iff.mpr h).symm.trans
    (Numeric.readUpTo_trim_eq_ok_iff.mpr h'))

theorem HasNumbers.component_unique {v w : Version} {written : List (List Char)}
    (hv : v.HasNumbers written) (hw : w.HasNumbers written) (i : Nat) :
    v.component i = w.component i := by
  cases hpiece : written[i]? with
  | none =>
      have hbehind := List.getElem?_eq_none_iff.mp hpiece
      rw [hv.zero i hbehind, hw.zero i hbehind]
  | some piece => exact (hv.number i piece hpiece).unique (hw.number i piece hpiece)

theorem HasNumbers.major {v : Version} {written : List (List Char)} (h : v.HasNumbers written) :
    ∀ piece ∈ written.head?, SpellsNumber piece v.major := by
  intro piece hpiece
  rw [major_eq_component]
  exact h.number 0 piece (List.head?_eq_getElem?.symm.trans hpiece)

theorem HasNumbers.isNumeric {v : Version} {written : List (List Char)} (h : v.HasNumbers written) :
    ∀ piece ∈ written, IsNumeric piece := by
  intro piece hpiece
  obtain ⟨i, hi⟩ := List.mem_iff_getElem?.mp hpiece
  exact ⟨v.component i, h.number i piece hi⟩

theorem hasNumbers_of_forall₂ {written : List (List Char)} {numbers : List Nat}
    (h : List.Forall₂ SpellsNumber written numbers) (text : String) :
    HasNumbers ⟨text, dropTrailingZeros numbers⟩ written := by
  refine ⟨fun i piece hpiece => ?_, fun i hi => ?_⟩
  · obtain ⟨hi, rfl⟩ := List.getElem?_eq_some_iff.mp hpiece
    have hi' : i < numbers.length := h.length_eq ▸ hi
    rw [component_mk, List.getD_eq_getElem _ _ hi']
    exact h.get hi hi'
  · rw [component_mk, List.getD_eq_default _ _ (h.length_eq ▸ hi)]

theorem exists_numbers {written : List (List Char)} (h : ∀ piece ∈ written, IsNumeric piece) :
    ∃ numbers, List.Forall₂ SpellsNumber written numbers := by
  induction written with
  | nil => exact ⟨[], .nil⟩
  | cons piece written ih =>
      obtain ⟨⟨n, hn⟩, hrest⟩ := List.forall_mem_cons.mp h
      obtain ⟨numbers, hnumbers⟩ := ih hrest
      exact ⟨n :: numbers, .cons hn hnumbers⟩

/-! ## The fault -/

section Fault

variable {piece core : List Char} {written : List (List Char)}

theorem firstOffending_cons_of_numeric (h : IsNumeric piece) :
    FirstOffending (piece :: written) core ↔ FirstOffending written core := by
  constructor
  · rintro ⟨front, offending, back, hsplit, hfront, hnot, hcore⟩
    cases front with
    | nil =>
        obtain ⟨rfl, -⟩ := List.cons.inj hsplit
        exact absurd h hnot
    | cons p front =>
        obtain ⟨rfl, rfl⟩ := List.cons.inj hsplit
        exact ⟨front, offending, back, rfl, (List.forall_mem_cons.mp hfront).2, hnot, hcore⟩
  · rintro ⟨front, offending, back, rfl, hfront, hnot, hcore⟩
    exact ⟨piece :: front, offending, back, rfl, List.forall_mem_cons.mpr ⟨h, hfront⟩, hnot, hcore⟩

theorem firstOffending_cons_of_not (h : ¬ IsNumeric piece) :
    FirstOffending (piece :: written) core ↔ Text.Stripped core piece := by
  constructor
  · rintro ⟨front, offending, back, hsplit, hfront, hnot, hcore⟩
    cases front with
    | nil =>
        obtain ⟨rfl, -⟩ := List.cons.inj hsplit
        exact hcore
    | cons p front =>
        obtain ⟨rfl, -⟩ := List.cons.inj hsplit
        exact absurd (hfront piece (List.mem_cons_self ..)) h
  · intro hcore
    exact ⟨[], piece, written, rfl, List.forall_mem_nil _, h, hcore⟩

/-- Reading stops at the first piece that is no number. -/
theorem readComponents_eq_error_iff {version : String} {fault : Fault} :
    readComponents version (written.map Text.trim) = .error fault ↔
      ∃ core, FirstOffending written core ∧ fault = .nonNumeric version (String.ofList core) := by
  induction written with
  | nil =>
      constructor
      · intro h
        cases h
      · rintro ⟨core, ⟨front, piece, back, hsplit, -⟩, -⟩
        simp at hsplit
  | cons piece written ih =>
      rw [List.map_cons, readComponents, component?]
      cases hread : readUpTo max64 (Text.trim piece) with
      | error e =>
          have hnot : ¬ IsNumeric piece := by
            rintro ⟨n, hn⟩
            rw [Numeric.readUpTo_trim_eq_ok_iff.mpr hn] at hread
            cases hread
          simp only [Except.toOption, firstOffending_cons_of_not hnot, ← Text.trim_eq_iff,
            Except.error.injEq, exists_eq_left']
          exact eq_comm
      | ok n =>
          have hnumeric : IsNumeric piece := ⟨n, Numeric.readUpTo_trim_eq_ok_iff.mp hread⟩
          simp only [Except.toOption, firstOffending_cons_of_numeric hnumeric, ← ih]
          exact map_eq_error_iff

end Fault

/-! ## Reading a text -/

section Reading

variable {text : String} {v : Version}

theorem parse_eq_ok_iff_hasNumbers :
    parse text = .ok v ↔ v.text = text ∧ v.components.getLast? ≠ some 0 ∧
      HasNumbers v (text.toList.splitOn '.') := by
  constructor
  · intro h
    obtain ⟨numbers, hspells, rfl⟩ := parse_eq_ok_iff.mp h
    exact ⟨rfl, last_dropTrailingZeros numbers,
      hasNumbers_of_forall₂ (spells_iff_splitOn.mp hspells) text⟩
  · rintro ⟨htext, hlast, hnumbers⟩
    obtain ⟨numbers, hspells⟩ := exists_numbers hnumbers.isNumeric
    refine parse_eq_ok_iff.mpr ⟨numbers, spells_iff_splitOn.mpr hspells, ?_⟩
    exact eq_of_component htext hlast (last_dropTrailingZeros numbers)
      (hnumbers.component_unique (hasNumbers_of_forall₂ hspells text))

theorem exists_parse_eq_ok_iff :
    (∃ v, parse text = .ok v) ↔ ∀ piece ∈ text.toList.splitOn '.', IsNumeric piece := by
  constructor
  · rintro ⟨v, hv⟩
    exact (parse_eq_ok_iff_hasNumbers.mp hv).2.2.isNumeric
  · intro h
    obtain ⟨numbers, hspells⟩ := exists_numbers h
    exact ⟨_, parse_eq_ok_iff.mpr ⟨numbers, spells_iff_splitOn.mpr hspells, rfl⟩⟩

theorem isAllBlank_iff : Text.isAllBlank text = true ↔ ∀ c ∈ text.toList, Text.isBlank c = true :=
  List.all_eq_true

/-- A fault is found in the pieces unless there is nothing but blanks. -/
theorem parse_eq_error_iff {fault : Fault} :
    parse text = .error fault ↔
      Text.isAllBlank text = true ∧ fault = .empty ∨
      Text.isAllBlank text = false ∧ ∃ core, FirstOffending (text.toList.splitOn '.') core ∧
        fault = .nonNumeric text (String.ofList core) := by
  rw [← readComponents_eq_error_iff, parse, ← pieces]
  cases Text.isAllBlank text with
  | true => simp [eq_comm]
  | false => simp [map_eq_error_iff]

end Reading

/-- A text is read as a version exactly if every piece of it between points
is a number of 64 bits with blanks around it. The version keeps the text,
its components are the numbers of the pieces and zeros from there on, and
its major number is that of the first piece. A text of blanks is empty; of
any other one the fault names the first piece that is no number, without
the blanks around it. -/
theorem parse_decided_by_pieces (text : String) :
    ((∃ v, parse text = .ok v) ↔ ∀ piece ∈ text.toList.splitOn '.', IsNumeric piece) ∧
    (∀ v, parse text = .ok v ↔ v.text = text ∧ v.components.getLast? ≠ some 0 ∧
      HasNumbers v (text.toList.splitOn '.')) ∧
    (∀ v, parse text = .ok v →
      ∀ piece ∈ (text.toList.splitOn '.').head?, SpellsNumber piece v.major) ∧
    (parse text = .error .empty ↔ ∀ c ∈ text.toList, Text.isBlank c = true) ∧
    (∀ version component, parse text = .error (.nonNumeric version component) ↔
      (∃ c ∈ text.toList, Text.isBlank c = false) ∧ version = text ∧
        FirstOffending (text.toList.splitOn '.') component.toList) := by
  refine ⟨exists_parse_eq_ok_iff, fun v => parse_eq_ok_iff_hasNumbers, fun v hv => ?_, ?_,
    fun version component => ?_⟩
  · exact (parse_eq_ok_iff_hasNumbers.mp hv).2.2.major
  · rw [parse_eq_error_iff, ← isAllBlank_iff]
    simp
  · have hblank : Text.isAllBlank text = false ↔ ∃ c ∈ text.toList, Text.isBlank c = false := by
      simp [Text.isAllBlank]
    rw [parse_eq_error_iff, hblank]
    constructor
    · rintro (⟨-, hfault⟩ | ⟨hsome, core, hcore, hfault⟩)
      · cases hfault
      · obtain ⟨rfl, rfl⟩ := Fault.nonNumeric.inj hfault
        rw [String.toList_ofList]
        exact ⟨hsome, rfl, hcore⟩
    · rintro ⟨hsome, rfl, hcore⟩
      exact .inr ⟨hsome, component.toList, hcore, by rw [String.ofList_toList]⟩

end Version

end UploadHooks
