import UploadHooks.Proofs.Numeric.Natural
import UploadHooks.Proofs.Results
import UploadHooks.Version

/-!
# How versions are written

`Spells` is the notation: numbers with points between them, each with
blanks around it, a plus sign in front and leading zeros as one likes. The
reader accepts exactly the texts that spell something, and keeps what they
spell without its trailing zeros (`parse_eq_ok_iff`).
-/

namespace UploadHooks

namespace Version

open Numeric (IsNatural max64 readUpTo)

/-- The piece is that number with blanks around it. -/
def SpellsNumber (piece : List Char) (n : Nat) : Prop :=
  ∃ core, Text.Padded core piece ∧ IsNatural max64 core n

/-- The text is these numbers with points between them. -/
def Spells (text : String) (numbers : List Nat) : Prop :=
  ∃ written, written ≠ [] ∧ text.toList = ['.'].intercalate written ∧
    List.Forall₂ SpellsNumber written numbers

/-! ## Reading -/

theorem readComponents_eq_ok_iff {version : String} {pieces : List (List Char)}
    {numbers : List Nat} : readComponents version pieces = .ok numbers ↔
      List.Forall₂ (fun piece n => readUpTo max64 piece = .ok n) pieces numbers := by
  induction pieces generalizing numbers with
  | nil =>
      rw [readComponents, List.forall₂_nil_left_iff, Except.ok.injEq]
      exact eq_comm
  | cons piece pieces ih =>
      rw [readComponents, component?, List.forall₂_cons_left_iff]
      cases hread : readUpTo max64 piece with
      | error fault => simp [Except.toOption]
      | ok n =>
          simp only [Except.toOption, map_eq_ok_iff, ih, Except.ok.injEq]
          constructor
          · rintro ⟨rest, hrest, rfl⟩
            exact ⟨n, rest, rfl, hrest, rfl⟩
          · rintro ⟨m, rest, rfl, hrest, rfl⟩
            exact ⟨rest, hrest, rfl⟩

theorem SpellsNumber.mem_cases {piece : List Char} {n : Nat} (h : SpellsNumber piece n) {c : Char}
    (hc : c ∈ piece) : Text.isBlank c = true ∨ c = '+' ∨ c.isDigit = true := by
  obtain ⟨core, ⟨before, after, hbefore, hafter, rfl⟩, hcore⟩ := h
  rcases List.mem_append.mp hc with hc | hc
  · rcases List.mem_append.mp hc with hc | hc
    · exact .inl (hbefore c hc)
    · exact .inr (hcore.mem_cases hc)
  · exact .inl (hafter c hc)

theorem point_not_mem_of_spellsNumber {piece : List Char} {n : Nat} (h : SpellsNumber piece n) :
    '.' ∉ piece := fun hmem => absurd (h.mem_cases hmem) (by decide)

/-- Points do not stand in the pieces, so the pieces are found again. -/
theorem splitOn_of_spells {written : List (List Char)} {numbers : List Nat}
    (hne : written ≠ []) (h : List.Forall₂ SpellsNumber written numbers) :
    (['.'].intercalate written).splitOn '.' = written := by
  have hpoint : ∀ piece ∈ written, '.' ∉ piece :=
    (List.forall₂_and_left _ _).mp (h.imp fun _ _ hs => ⟨point_not_mem_of_spellsNumber hs, hs⟩) |>.1
  exact List.splitOn_intercalate '.' hpoint hne

/-- What a text spells is what the pieces between its points are. -/
theorem spells_iff_splitOn {text : String} {numbers : List Nat} :
    Spells text numbers ↔ List.Forall₂ SpellsNumber (text.toList.splitOn '.') numbers := by
  constructor
  · rintro ⟨written, hne, htext, h⟩
    rwa [htext, splitOn_of_spells hne h]
  · exact fun h => ⟨_, List.splitOn_ne_nil _ _, (List.intercalate_splitOn '.').symm, h⟩

theorem readComponents_pieces_eq_ok_iff {text : String} {numbers : List Nat} :
    readComponents text (pieces text) = .ok numbers ↔ Spells text numbers := by
  rw [readComponents_eq_ok_iff, pieces, List.forall₂_map_left_iff, spells_iff_splitOn]
  have hpiece : (fun piece n => readUpTo max64 (Text.trim piece) = .ok n) = SpellsNumber := by
    funext piece n
    exact propext Numeric.readUpTo_trim_eq_ok_iff
  rw [hpiece]

/-- The first digit of the first number is no blank. -/
theorem not_isAllBlank_of_spells {text : String} {numbers : List Nat} (h : Spells text numbers) :
    Text.isAllBlank text = false := by
  obtain ⟨written, hne, htext, h⟩ := h
  obtain ⟨piece, written, rfl⟩ := List.exists_cons_of_ne_nil hne
  obtain ⟨n, rest, ⟨core, ⟨before, after, -, -, rfl⟩, hcore⟩, -, rfl⟩ :=
    List.forall₂_cons_left_iff.mp h
  obtain ⟨sign, digits, -, rfl, hdigits, hall, -, -⟩ := id hcore
  obtain ⟨c, digits, rfl⟩ := List.exists_cons_of_ne_nil hdigits
  have hc : Text.isBlank c = false := Text.isBlank_of_isDigit (hall c (List.mem_cons_self ..))
  have hmem : c ∈ text.toList := by
    rw [htext]
    cases written <;> simp [List.intercalate]
  rw [Text.isAllBlank, List.all_eq_false]
  exact ⟨c, hmem, by simp [hc]⟩

/-- A text is read as a version exactly if it spells one. -/
theorem parse_eq_ok_iff {text : String} {v : Version} :
    parse text = .ok v ↔
      ∃ numbers, Spells text numbers ∧ v = ⟨text, dropTrailingZeros numbers⟩ := by
  rw [parse]
  constructor
  · intro h
    split at h
    · cases h
    · obtain ⟨numbers, hread, rfl⟩ := map_eq_ok_iff.mp h
      exact ⟨numbers, readComponents_pieces_eq_ok_iff.mp hread, rfl⟩
  · rintro ⟨numbers, hspells, rfl⟩
    rw [not_isAllBlank_of_spells hspells, if_neg Bool.false_ne_true,
      readComponents_pieces_eq_ok_iff.mpr hspells]
    rfl

/-- A text spells one list of numbers. -/
theorem Spells.unique {text : String} {numbers numbers' : List Nat} (h : Spells text numbers)
    (h' : Spells text numbers') : numbers = numbers' :=
  Except.ok.inj ((readComponents_pieces_eq_ok_iff.mpr h).symm.trans
    (readComponents_pieces_eq_ok_iff.mpr h'))

/-- The numbers of a version fit 64 bits. -/
theorem Spells.le_max64 {text : String} {numbers : List Nat} (h : Spells text numbers) :
    ∀ n ∈ numbers, n ≤ max64 := by
  obtain ⟨written, -, -, h⟩ := h
  have hle : List.Forall₂ (fun n piece => n ≤ max64 ∧ SpellsNumber piece n) numbers written := by
    refine h.flip.imp fun n piece hs => ?_
    obtain ⟨core, -, hcore⟩ := id hs
    exact ⟨hcore.le, hs⟩
  exact ((List.forall₂_and_left _ _).mp hle).1

end Version

end UploadHooks
