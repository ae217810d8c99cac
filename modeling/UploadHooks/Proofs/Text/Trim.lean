import Mathlib.Data.List.TakeWhile
import UploadHooks.Text.Blank

/-!
# What trimming leaves

A text is read with the blank characters around it dropped. `Padded` says
what that means without an order in which the two ends are looked at: the
text is the core with blanks before and after it. With no blank at the ends
of the core there is one such core, which trimming finds (`trim_eq_iff`).
The words that readers look for, numbers above all, have no blanks of their
own, and such a word stands in a text with blanks around it exactly if it is
what trimming leaves (`exists_padded_iff`).
-/

namespace UploadHooks

namespace Text

/-- The text is the core with blank characters around it. -/
def Padded (core text : List Char) : Prop :=
  ∃ before after, (∀ c ∈ before, isBlank c = true) ∧ (∀ c ∈ after, isBlank c = true) ∧
    text = before ++ core ++ after

/-- The core of a text: only blanks stand around it, and it neither begins
nor ends with one. -/
structure Stripped (core text : List Char) : Prop where
  padded : Padded core text
  head : ∀ c ∈ core.head?, isBlank c = false
  last : ∀ c ∈ core.getLast?, isBlank c = false

section Trim

variable {core text : List Char}

theorem trimLeft_append {before : List Char} (h : ∀ c ∈ before, isBlank c = true)
    (text : List Char) : trimLeft (before ++ text) = trimLeft text :=
  List.dropWhile_append_of_pos h

theorem trimRight_append {after : List Char} (h : ∀ c ∈ after, isBlank c = true)
    (text : List Char) : trimRight (text ++ after) = trimRight text := by
  have hreverse : ∀ c ∈ after.reverse, isBlank c = true := fun c hc => h c (List.mem_reverse.mp hc)
  rw [trimRight, List.reverse_append, List.dropWhile_append_of_pos hreverse, trimRight]

theorem trimLeft_of_head {c : Char} (h : isBlank c = false) (rest : List Char) :
    trimLeft (c :: rest) = c :: rest := by
  rw [trimLeft, List.dropWhile_cons_of_neg (by simp [h])]

theorem trimRight_of_last {c : Char} (h : isBlank c = false) (front : List Char) :
    trimRight (front ++ [c]) = front ++ [c] := by
  rw [trimRight, List.reverse_concat, List.dropWhile_cons_of_neg (by simp [h]),
    ← List.reverse_concat, List.reverse_reverse]

theorem trimLeft_of_blank (h : ∀ c ∈ text, isBlank c = true) : trimLeft text = [] :=
  List.dropWhile_eq_nil_iff.mpr h

/-- A text has one core, which is what trimming leaves. -/
theorem trim_eq_of_stripped (h : Stripped core text) : trim text = core := by
  obtain ⟨before, after, hbefore, hafter, rfl⟩ := h.padded
  rw [List.append_assoc, trim, trimLeft_append hbefore]
  rcases List.eq_nil_or_concat core with rfl | ⟨front, last, rfl⟩
  · rw [List.nil_append, trimLeft_of_blank hafter]
    rfl
  · rw [List.concat_eq_append] at h ⊢
    have hlast : isBlank last = false := h.last last (by simp)
    obtain ⟨first, rest, hcore⟩ := List.exists_cons_of_ne_nil (List.append_ne_nil_of_right_ne_nil
      front (List.cons_ne_nil last []))
    have hfirst : isBlank first = false := h.head first (by simp [hcore])
    have hleft : trimLeft (front ++ [last] ++ after) = front ++ [last] ++ after := by
      rw [hcore, List.cons_append]
      exact trimLeft_of_head hfirst _
    rw [hleft, trimRight_append hafter, trimRight_of_last hlast]

theorem Padded.stripped (h : Padded core text) (hcore : ∀ c ∈ core, isBlank c = false) :
    Stripped core text :=
  ⟨h, fun c hc => hcore c (List.mem_of_mem_head? hc),
    fun c hc => hcore c (List.mem_of_mem_getLast? hc)⟩

theorem exists_trimLeft (text : List Char) :
    ∃ before, (∀ c ∈ before, isBlank c = true) ∧ text = before ++ trimLeft text :=
  ⟨text.takeWhile isBlank, fun _ hc => List.mem_takeWhile_imp hc,
    (List.takeWhile_append_dropWhile ..).symm⟩

theorem exists_trimRight (text : List Char) :
    ∃ after, (∀ c ∈ after, isBlank c = true) ∧ text = trimRight text ++ after := by
  obtain ⟨before, hbefore, h⟩ := exists_trimLeft text.reverse
  refine ⟨before.reverse, fun c hc => hbefore c (List.mem_reverse.mp hc), ?_⟩
  rw [← List.reverse_inj, h, List.reverse_append, List.reverse_reverse, trimRight,
    List.reverse_reverse]
  rfl

/-- Whatever the text, trimming it takes nothing but blanks away. -/
theorem padded_trim (text : List Char) : Padded (trim text) text := by
  obtain ⟨before, hbefore, hleft⟩ := exists_trimLeft text
  obtain ⟨after, hafter, hright⟩ := exists_trimRight (trimLeft text)
  refine ⟨before, after, hbefore, hafter, ?_⟩
  rw [trim, List.append_assoc, ← hright]
  exact hleft

theorem head_trimLeft (text : List Char) : ∀ c ∈ (trimLeft text).head?, isBlank c = false := by
  intro c hc
  have hnot := List.head?_dropWhile_not isBlank text
  rw [trimLeft] at hc
  rw [hc] at hnot
  simpa using hnot

theorem last_trimRight (text : List Char) :
    ∀ c ∈ (trimRight text).getLast?, isBlank c = false := by
  rw [trimRight, List.getLast?_reverse]
  exact head_trimLeft text.reverse

/-- Trimming on the right cannot uncover a blank on the left, as whatever
comes first after it came first before. -/
theorem stripped_trim (text : List Char) : Stripped (trim text) text := by
  refine ⟨padded_trim text, ?_, last_trimRight (trimLeft text)⟩
  intro c hc
  obtain ⟨after, -, hright⟩ := exists_trimRight (trimLeft text)
  obtain ⟨rest, hrest⟩ := List.head?_eq_some_iff.mp hc
  refine head_trimLeft text c ?_
  rw [hright, ← trim, hrest]
  rfl

/-- Trimming finds the core, and a text has no other. -/
theorem trim_eq_iff : trim text = core ↔ Stripped core text := by
  constructor
  · rintro rfl
    exact stripped_trim text
  · exact trim_eq_of_stripped

/-- What has a property that no text with blanks in it has is found in a
text by trimming it. -/
theorem exists_padded_iff {P : List Char → Prop}
    (hclean : ∀ core, P core → ∀ c ∈ core, isBlank c = false) :
    (∃ core, Padded core text ∧ P core) ↔ P (trim text) := by
  constructor
  · rintro ⟨core, hpadded, hcore⟩
    rwa [trim_eq_of_stripped (hpadded.stripped (hclean core hcore))]
  · intro h
    exact ⟨trim text, padded_trim text, h⟩

end Trim

theorem isBlank_of_isDigit {c : Char} (h : c.isDigit = true) : isBlank c = false := by
  simp only [Char.isDigit, Bool.and_eq_true, decide_eq_true_eq] at h
  have hlow : 48 ≤ c.toNat := by simpa using UInt32.le_iff_toNat_le.mp h.1
  have hhigh : c.toNat ≤ 57 := by simpa using UInt32.le_iff_toNat_le.mp h.2
  simp [isBlank]
  omega

end Text

end UploadHooks
