import Mathlib.Data.Char
import Mathlib.Data.Finset.Sort
import UploadHooks.Proofs.Schema.Validation

/-!
# The forbidden characters of a name

A name is scanned from left to right, and what is found is put into an
ascending list. What comes out depends on the set of its characters alone:
it is the only ascending list with the forbidden ones among them
(`ListsForbidden.unique`). All that is said about two names, that the list
of both together is the sorted union of their lists and that neither order
nor repetition counts, follows from that and not from the scan.

A fault and the issue it becomes have a text each; they are the same.
-/

namespace UploadHooks

namespace Filename

/-- The list is the set of the forbidden characters in the name, from the
least to the greatest. -/
structure ListsForbidden (name : String) (characters : List Char) : Prop where
  ascending : characters.Pairwise (· < ·)
  members : ∀ c, c ∈ characters ↔ c ∈ name.toList ∧ c ∈ forbidden

/-- Ascending lists with the same members are the same. -/
theorem eq_of_ascending {found found' : List Char} (h : Ascending found) (h' : Ascending found')
    (hmem : ∀ c, c ∈ found ↔ c ∈ found') : found = found' := by
  have hantisymm : Std.Antisymm fun c d : Char => c < d := ⟨fun _ _ hcd hdc => absurd hcd hdc.asymm⟩
  have hirrefl : Std.Irrefl fun c d : Char => c < d := ⟨lt_irrefl⟩
  exact List.Pairwise.eq_of_mem_iff h h' hmem

namespace ListsForbidden

variable {name : String} {characters characters' : List Char}

theorem unique (h : ListsForbidden name characters) (h' : ListsForbidden name characters') :
    characters = characters' :=
  eq_of_ascending h.ascending h'.ascending fun c => (h.members c).trans (h'.members c).symm

theorem nodup (h : ListsForbidden name characters) : characters.Nodup :=
  h.ascending.imp ne_of_lt

end ListsForbidden

theorem listsForbidden_offending (name : String) : ListsForbidden name (offending name) :=
  ⟨offending_ascending name, fun _ => mem_offending⟩

/-! ## The outcome of a check -/

/-- The characters that the outcome of a check lists. -/
def listed : Except Fault Unit → List Char
  | .error (.invalid _ characters) => characters
  | _ => []

theorem listed_check (name : String) : listed (check name) = offending name := by
  by_cases h : Clean name
  · rw [check_clean h, offending_eq_nil_iff.mpr h]
    rfl
  · rw [check_not_clean h]
    rfl

theorem check_eq_ok_iff {name : String} : check name = .ok () ↔ Clean name := by
  refine ⟨fun hok => ?_, check_clean⟩
  by_contra h
  rw [check_not_clean h] at hok
  cases hok

theorem check_eq_error_iff {name : String} {fault : Fault} :
    check name = .error fault ↔ ∃ characters, ListsForbidden name characters ∧
      characters ≠ [] ∧ fault = .invalid name characters := by
  constructor
  · intro h
    have hclean : ¬ Clean name := fun hclean => by
      rw [check_clean hclean] at h
      cases h
    rw [check_not_clean hclean] at h
    exact ⟨_, listsForbidden_offending name, mt offending_eq_nil_iff.mp hclean,
      (Except.error.inj h).symm⟩
  · rintro ⟨characters, hlist, hne, rfl⟩
    obtain rfl := hlist.unique (listsForbidden_offending name)
    exact check_not_clean (mt offending_eq_nil_iff.mpr hne)

/-! ## Two names -/

/-- Only which of the forbidden characters are there plays a part. -/
theorem offending_congr {name name' : String}
    (h : ∀ c ∈ forbidden, c ∈ name.toList ↔ c ∈ name'.toList) : offending name = offending name' :=
  eq_of_ascending (offending_ascending name) (offending_ascending name') fun c => by
    simp only [mem_offending, and_congr_left (h c)]

theorem offending_append (name name' : String) : offending (name ++ name') =
    ((offending name).toFinset ∪ (offending name').toFinset).sort := by
  refine eq_of_ascending (offending_ascending _) (Finset.sortedLT_sort _).pairwise fun c => ?_
  rw [Finset.mem_sort, Finset.mem_union, List.mem_toFinset, List.mem_toFinset]
  simp only [mem_offending, String.toList_append, List.mem_append, or_and_right]

theorem text_issue (fault : Fault) : fault.issue.text = fault.message := by
  cases fault with
  | absent => rfl
  | invalid name characters => rfl

/-- A name passes if it has none of the forbidden characters. Otherwise the
fault has the name as it is and those of them that occur in it, from the
least to the greatest. So two names one behind the other have the sorted
union of their lists, and names in which the same forbidden characters
occur, in whatever order and however often, have the same list. As an issue
the fault has the same name, characters and text. -/
theorem forbidden_characters_listed (name : String) :
    (check name = .ok () ↔ ∀ c ∈ name.toList, c ∉ forbidden) ∧
    (∀ fault, check name = .error fault ↔ ∃ characters, ListsForbidden name characters ∧
      characters ≠ [] ∧ fault = .invalid name characters) ∧
    (listed (check name)).Nodup ∧
    (∀ name', listed (check (name ++ name')) =
      ((listed (check name)).toFinset ∪ (listed (check name')).toFinset).sort) ∧
    (∀ name', (∀ c ∈ forbidden, c ∈ name.toList ↔ c ∈ name'.toList) →
      listed (check name) = listed (check name')) ∧
    ∀ fault, check name = .error fault →
      fault.issue = .invalidFilename name (listed (check name)) ∧
        fault.issue.text = fault.message := by
  simp only [listed_check]
  refine ⟨check_eq_ok_iff, fun _ => check_eq_error_iff, (listsForbidden_offending name).nodup,
    offending_append name, fun _ => offending_congr, fun fault h => ⟨?_, text_issue fault⟩⟩
  obtain ⟨characters, hlist, -, rfl⟩ := check_eq_error_iff.mp h
  rw [Fault.issue, hlist.unique (listsForbidden_offending name)]

/-- A name with two marks, one of them twice, and another one that has the
same marks the other way round. -/
theorem forbidden_characters_of_repeated_marks :
    check "x?y/z?w" = .error (.invalid "x?y/z?w" ['/', '?']) ∧
      (∀ c ∈ forbidden, c ∈ "x?y/z?w".toList ↔ c ∈ "?/".toList) ∧
      listed (check "x?y/z?w") = listed (check "?/") ∧
      Issue.text (.invalidFilename "x?y/z?w" ['/', '?']) =
        Fault.message (.invalid "x?y/z?w" ['/', '?']) := by
  have hcheck : check "x?y/z?w" = .error (.invalid "x?y/z?w" ['/', '?']) := by decide +kernel
  have hsame : ∀ c ∈ forbidden, c ∈ "x?y/z?w".toList ↔ c ∈ "?/".toList := by
    simp only [forbidden, List.forall_mem_cons, List.not_mem_nil, false_implies, implies_true,
      and_true]
    decide +kernel
  obtain ⟨-, -, -, -, hcongr, hissue⟩ := forbidden_characters_listed "x?y/z?w"
  exact ⟨hcheck, hsame, hcongr "?/" hsame, (hissue _ hcheck).2⟩

end Filename

end UploadHooks
