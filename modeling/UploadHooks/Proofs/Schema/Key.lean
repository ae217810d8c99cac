import Mathlib.Data.List.Basic
import UploadHooks.Schema.Store

/-!
# Which uploads have one path

A key is a path of a folder and a file, and which two those are can be
told from the path (`Key.path_eq_iff`): the folder is a `v` and digits, so
the first slash is the one behind it, whatever the ids are.

The file is named after the ids with a hyphen between them, and ids may
have hyphens of their own. A name with several hyphens can then be taken
apart at any of them (`append_cons_eq_append_cons_iff`), and all uploads
that are read off it in this way share its path, and with that its
document. There is no other way to share a path (`path_forUpload_eq_iff`):
two different uploads do only if the ids of one are those of the other,
split at a later hyphen.

Uploads of different paths have documents of their own in a directory. On
the web they need not, as tabs and line breaks of an id are lost from a
URL (`documentUrl?_eq_iff`).
-/

namespace UploadHooks

/-! ## Splitting at a separator -/

/-- Of two ways to split a list at the same element one splits it earlier,
and what lies between the two splits is in both. -/
theorem append_cons_eq_append_cons_iff {α : Type} {x : α} {front back front' back' : List α} :
    front ++ x :: back = front' ++ x :: back' ↔ front = front' ∧ back = back' ∨
      (∃ middle, front' = front ++ x :: middle ∧ back = middle ++ x :: back') ∨
      ∃ middle, front = front' ++ x :: middle ∧ back' = middle ++ x :: back := by
  rw [List.append_eq_append_iff]
  constructor
  · rintro (⟨between, rfl, h⟩ | ⟨between, rfl, h⟩)
    · rcases List.cons_eq_append_iff.mp h with ⟨rfl, hback⟩ | ⟨middle, rfl, hback⟩
      · exact .inl ⟨(List.append_nil front).symm, (List.cons.inj hback).2.symm⟩
      · exact .inr (.inl ⟨middle, rfl, hback⟩)
    · rcases List.cons_eq_append_iff.mp h with ⟨rfl, hback⟩ | ⟨middle, rfl, hback⟩
      · exact .inl ⟨List.append_nil front', (List.cons.inj hback).2⟩
      · exact .inr (.inr ⟨middle, rfl, hback⟩)
  · rintro (⟨rfl, rfl⟩ | ⟨middle, rfl, rfl⟩ | ⟨middle, rfl, rfl⟩)
    · exact .inl ⟨[], (List.append_nil front).symm, rfl⟩
    · exact .inl ⟨x :: middle, rfl, rfl⟩
    · exact .inr ⟨x :: middle, rfl, rfl⟩

namespace Schema

/-! ## Paths -/

namespace Key

variable {key key' : Key}

theorem toList_folder (key : Key) : key.folder.toList = 'v' :: Nat.toDigits 10 key.major := by
  rw [folder, String.toList_append, Nat.toList_repr]
  rfl

theorem folder_ne {name : String} (h : name.toList.head? ≠ some 'v') : key.folder ≠ name := by
  rintro rfl
  exact h (by rw [toList_folder]; rfl)

theorem mem_folder {c : Char} (h : c ∈ key.folder.toList) : c = 'v' ∨ c.isDigit = true := by
  rw [toList_folder] at h
  exact (List.mem_cons.mp h).imp_right (Nat.isDigit_of_mem_toDigits (by decide) (by decide))

theorem slash_not_mem_folder (key : Key) : '/' ∉ key.folder.toList := fun h =>
  absurd (mem_folder h) (by decide)

theorem folder_eq_iff : key.folder = key'.folder ↔ key.major = key'.major := by
  refine ⟨fun h => ?_, fun h => by rw [folder, folder, h]⟩
  have hdigits : Nat.toDigits 10 key.major = Nat.toDigits 10 key'.major := by
    rw [← Nat.toList_repr, ← Nat.toList_repr, (String.append_right_inj "v").mp h]
  have hvalue := congrArg (Nat.ofDigitChars 10 · 0) hdigits
  simpa using hvalue

theorem toList_path (key : Key) :
    key.path.toList = key.folder.toList ++ '/' :: key.file.toList := by
  simp [path]

/-- A path has its folder before the first slash. -/
theorem path_eq_iff : key.path = key'.path ↔ key.major = key'.major ∧ key.file = key'.file := by
  rw [← folder_eq_iff]
  constructor
  · intro h
    have hchars := congrArg String.toList h
    rw [toList_path, toList_path, append_cons_eq_append_cons_iff] at hchars
    rcases hchars with ⟨hfolder, hfile⟩ | ⟨middle, hfolder, -⟩ | ⟨middle, hfolder, -⟩
    · exact ⟨String.toList_inj.mp hfolder, String.toList_inj.mp hfile⟩
    · exact absurd (by simp [hfolder]) (slash_not_mem_folder key')
    · exact absurd (by simp [hfolder]) (slash_not_mem_folder key)
  · rintro ⟨hfolder, hfile⟩
    rw [path, path, hfolder, hfile]

theorem toList_file (key : Key) :
    key.file.toList =
      key.useCase.toList ++ '-' :: key.useCaseCategory.toList ++ ".json".toList := by
  simp [file]

end Key

/-! ## Uploads of one path -/

/-- The second upload has the ids of the first one, if a later hyphen is
taken for the one between them. -/
def SplitsLater (a b : ResolvedUpload) : Prop :=
  ∃ middle, b.useCase = a.useCase ++ "-" ++ middle ∧
    a.useCaseCategory = middle ++ "-" ++ b.useCaseCategory

theorem splitsLater_iff {a b : ResolvedUpload} : SplitsLater a b ↔ ∃ middle : List Char,
    b.useCase.toList = a.useCase.toList ++ '-' :: middle ∧
      a.useCaseCategory.toList = middle ++ '-' :: b.useCaseCategory.toList := by
  constructor
  · rintro ⟨middle, huse, hcategory⟩
    exact ⟨middle.toList, by simp [huse], by simp [hcategory]⟩
  · rintro ⟨middle, huse, hcategory⟩
    refine ⟨String.ofList middle, ?_, ?_⟩
    · rw [← String.toList_inj, huse]
      simp
    · rw [← String.toList_inj, hcategory]
      simp

theorem file_forUpload_eq_iff {a b : ResolvedUpload} :
    (Key.forUpload a).file = (Key.forUpload b).file ↔
      a.useCase = b.useCase ∧ a.useCaseCategory = b.useCaseCategory ∨
        SplitsLater a b ∨ SplitsLater b a := by
  rw [← String.toList_inj, Key.toList_file, Key.toList_file, List.append_cancel_right_eq,
    append_cons_eq_append_cons_iff, splitsLater_iff, splitsLater_iff]
  simp only [Key.forUpload, String.toList_inj]

theorem path_forUpload_eq_iff {a b : ResolvedUpload} :
    (Key.forUpload a).path = (Key.forUpload b).path ↔
      a = b ∨ a.version = b.version ∧ (SplitsLater a b ∨ SplitsLater b a) := by
  have hmajor : (Key.forUpload a).major = (Key.forUpload b).major ↔ a.version = b.version := by
    simp only [Key.forUpload]
    cases a.version <;> cases b.version <;> decide
  rw [Key.path_eq_iff, hmajor, file_forUpload_eq_iff]
  constructor
  · rintro ⟨hversion, ⟨huse, hcategory⟩ | hsplit⟩
    · cases a
      cases b
      cases hversion
      cases huse
      cases hcategory
      exact .inl rfl
    · exact .inr ⟨hversion, hsplit⟩
  · rintro (rfl | ⟨hversion, hsplit⟩)
    · exact ⟨rfl, .inl ⟨rfl, rfl⟩⟩
    · exact ⟨hversion, .inr hsplit⟩

theorem SplitsLater.ids_ne {a b : ResolvedUpload} (h : SplitsLater a b) :
    a.useCase ≠ b.useCase ∧ a.useCaseCategory ≠ b.useCaseCategory := by
  obtain ⟨middle, huse, hcategory⟩ := splitsLater_iff.mp h
  constructor
  · intro heq
    have hlength := congrArg List.length huse
    rw [heq, List.length_append, List.length_cons] at hlength
    omega
  · intro heq
    have hlength := congrArg List.length hcategory
    rw [heq, List.length_append, List.length_cons] at hlength
    omega

theorem SplitsLater.hyphen_mem {a b : ResolvedUpload} (h : SplitsLater a b) :
    '-' ∈ b.useCase.toList ∧ '-' ∈ a.useCaseCategory.toList := by
  obtain ⟨middle, huse, hcategory⟩ := splitsLater_iff.mp h
  exact ⟨by simp [huse], by simp [hcategory]⟩

/-! ## What it means for documents -/

/-- To a store the keys of one path are one key. -/
theorem stores_of_path_eq {key key' : Key} (h : key.path = key'.path) :
    (∀ directory, directoryStore directory key = directoryStore directory key') ∧
      ∀ base documents, webStore base documents key = webStore base documents key' := by
  obtain ⟨hmajor, hfile⟩ := Key.path_eq_iff.mp h
  have hfolder := Key.folder_eq_iff.mpr hmajor
  constructor
  · intro directory
    simp only [directoryStore, fetchFile, decodeAt, h, hfile, hfolder]
  · intro base documents
    have hurl : documentUrl? base key = documentUrl? base key' := by
      simp only [documentUrl?, Key.segments, hfile, hfolder]
    have houtcome : ofOutcome key = ofOutcome key' := by
      funext request outcome
      cases outcome <;> simp only [ofOutcome, decodeAt, h]
    simp only [webStore, hurl, houtcome]

/-- Which uploads have the same path, and thereby the same document in any
store: two that are equal, or that are of one version and split one text at
two different hyphens. So different uploads that share a path differ in
both of their ids, and there is a hyphen in the use case of one and in the
category of the other. -/
theorem document_shared_iff_hyphen_moved (a b : ResolvedUpload) :
    ((Key.forUpload a).path = (Key.forUpload b).path ↔
      a = b ∨ a.version = b.version ∧ (SplitsLater a b ∨ SplitsLater b a)) ∧
    ((Key.forUpload a).path = (Key.forUpload b).path →
      (∀ directory,
        directoryStore directory (.forUpload a) = directoryStore directory (.forUpload b)) ∧
      (∀ base documents,
        webStore base documents (.forUpload a) = webStore base documents (.forUpload b)) ∧
      (a ≠ b → a.version = b.version ∧ a.useCase ≠ b.useCase ∧
        a.useCaseCategory ≠ b.useCaseCategory ∧
        ('-' ∈ b.useCase.toList ∧ '-' ∈ a.useCaseCategory.toList ∨
          '-' ∈ a.useCase.toList ∧ '-' ∈ b.useCaseCategory.toList))) := by
  refine ⟨path_forUpload_eq_iff, fun h => ?_⟩
  obtain ⟨hdirectory, hweb⟩ := stores_of_path_eq h
  refine ⟨hdirectory, hweb, fun hne => ?_⟩
  rcases path_forUpload_eq_iff.mp h with heq | ⟨hversion, hsplit | hsplit⟩
  · exact absurd heq hne
  · obtain ⟨huse, hcategory⟩ := hsplit.ids_ne
    exact ⟨hversion, huse, hcategory, .inl hsplit.hyphen_mem⟩
  · obtain ⟨huse, hcategory⟩ := hsplit.ids_ne
    exact ⟨hversion, huse.symm, hcategory.symm, .inr hsplit.hyphen_mem⟩

/-- Of two hyphens in a row either can be the one between the ids. -/
theorem split_at_either_hyphen :
    let a : ResolvedUpload := ⟨.v2, "aims", "-celr"⟩
    let b : ResolvedUpload := ⟨.v2, "aims-", "celr"⟩
    (Key.forUpload a).path = (Key.forUpload b).path ∧ a ≠ b ∧ SplitsLater a b ∧
      (∀ directory,
        directoryStore directory (.forUpload a) = directoryStore directory (.forUpload b)) ∧
      a.useCase ≠ b.useCase := by
  intro a b
  obtain ⟨hiff, hshared⟩ := document_shared_iff_hyphen_moved a b
  have hsplit : SplitsLater a b := ⟨"", by decide, by decide⟩
  have hne : a ≠ b := by decide
  have hpath : (Key.forUpload a).path = (Key.forUpload b).path :=
    hiff.mpr (.inr ⟨rfl, .inl hsplit⟩)
  obtain ⟨hdirectory, -, hids⟩ := hshared hpath
  exact ⟨hpath, hne, hsplit, hdirectory, (hids hne).2.1⟩

/-- Uploads of different ids may have the same path. -/
theorem hyphen_in_id_shares_path :
    let a : ResolvedUpload := ⟨.v2, "aims-celr", "hl7"⟩
    let b : ResolvedUpload := ⟨.v2, "aims", "celr-hl7"⟩
    resolve (.ofPairs [("version", "2.0"), ("data_stream_id", "aims-celr"),
      ("data_stream_route", "hl7")]) = .ok a ∧
    resolve (.ofPairs [("version", "2.0"), ("data_stream_id", "aims"),
      ("data_stream_route", "celr-hl7")]) = .ok b ∧
    (Key.forUpload a).path = "v2/aims-celr-hl7.json" ∧
    (Key.forUpload b).path = "v2/aims-celr-hl7.json" ∧
    ¬ ∀ a b : ResolvedUpload, (a.version ≠ b.version ∨ a.useCase ≠ b.useCase ∨
      a.useCaseCategory ≠ b.useCaseCategory) → (Key.forUpload a).path ≠ (Key.forUpload b).path := by
  intro a b
  have hpath : (Key.forUpload a).path = (Key.forUpload b).path := by decide
  refine ⟨by decide +kernel, by decide +kernel, by decide, by decide, fun h => ?_⟩
  exact h a b (.inr (.inl (by decide))) hpath

end Schema

end UploadHooks
