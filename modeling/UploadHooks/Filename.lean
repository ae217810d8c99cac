import UploadHooks.Issue
import UploadHooks.Metadata

/-!
# Filenames

The name of the uploaded file may stand in one of several fields, of which
the first present one counts, and must not hold any of nine characters.

Those that it does hold are collected while the name is scanned, in a set
that is kept as an ascending list. `mem_offending` and
`offending_ascending` say all there is to know about the outcome.
-/

namespace UploadHooks

namespace Filename

/-- The fields that may hold the name, most important first. -/
def fields : List String := ["filename", "original_filename", "meta_ext_filename"]

/-- The characters a name must not hold, in ascending order. -/
def forbidden : List Char := ['"', '*', '/', ':', '<', '>', '?', '\\', '|']

inductive Fault where
  | absent
  | invalid (filename : String) (characters : List Char)
  deriving DecidableEq, Repr

def quoteChars (characters : List Char) : String :=
  String.intercalate ", " (characters.map fun c => "'" ++ String.singleton c ++ "'")

namespace Fault

def issue : Fault → Issue
  | .absent => .noFilename fields
  | .invalid filename characters => .invalidFilename filename characters

def message : Fault → String
  | .absent => "No filename provided; expected one of: " ++ String.intercalate ", " fields
  | .invalid filename characters =>
    "Filename '" ++ filename ++ "' contains invalid characters: " ++ quoteChars characters

end Fault

/-- The name in the first of the fields that is present. -/
def find? (m : Metadata) : Option String := fields.findSome? m.get?

def extract (m : Metadata) : Except Fault String :=
  match find? m with
  | some name => .ok name
  | none => .error .absent

/-- A character put in its place among ascending ones, unless it is there
already. -/
def insertChar (c : Char) : List Char → List Char
  | [] => [c]
  | d :: rest =>
    if c < d then c :: d :: rest
    else if c = d then d :: rest
    else d :: insertChar c rest

/-- The characters of a list collected into a set. -/
def collect (chars : List Char) (found : List Char) : List Char :=
  chars.foldl (fun found c => insertChar c found) found

/-- The forbidden characters in a name, each once and in ascending
order. -/
def offending (name : String) : List Char := collect (name.toList.filter forbidden.contains) []

def check (name : String) : Except Fault Unit :=
  if (offending name).isEmpty then .ok () else .error (.invalid name (offending name))

/-- What is wrong with the name in the metadata, if anything. -/
def fault? (m : Metadata) : Option Fault :=
  match find? m with
  | none => some .absent
  | some name =>
    match check name with
    | .ok () => none
    | .error fault => some fault

/-! ## The characters that are found -/

theorem mem_insertChar {c d : Char} {found : List Char} :
    d ∈ insertChar c found ↔ d = c ∨ d ∈ found := by
  induction found with
  | nil => simp [insertChar]
  | cons e found ih =>
    simp only [insertChar]
    split
    · simp
    · split
      · next heq => simp [heq]
      · simp only [List.mem_cons, ih]
        exact or_left_comm

theorem mem_collect {c : Char} {chars found : List Char} :
    c ∈ collect chars found ↔ c ∈ chars ∨ c ∈ found := by
  induction chars generalizing found with
  | nil => simp [collect]
  | cons d chars ih =>
    rw [collect, List.foldl_cons, ← collect, ih, mem_insertChar, List.mem_cons, or_left_comm,
      or_assoc]

theorem mem_offending {c : Char} {name : String} :
    c ∈ offending name ↔ c ∈ name.toList ∧ c ∈ forbidden := by
  simp [offending, mem_collect]

/-- Each character is less than those behind it. -/
def Ascending (characters : List Char) : Prop := characters.Pairwise (· < ·)

theorem insertChar_ascending (c : Char) {found : List Char} (h : Ascending found) :
    Ascending (insertChar c found) := by
  induction found with
  | nil => simp [insertChar, Ascending]
  | cons d found ih =>
    obtain ⟨hhead, htail⟩ := List.pairwise_cons.mp h
    simp only [insertChar]
    split
    · next hlt =>
      refine List.pairwise_cons.mpr ⟨fun e he => ?_, h⟩
      rcases List.mem_cons.mp he with rfl | he
      · exact hlt
      · exact Std.lt_trans hlt (hhead e he)
    · next hlt =>
      split
      · exact h
      · next hne =>
        refine List.pairwise_cons.mpr ⟨fun e he => ?_, ih htail⟩
        rcases mem_insertChar.mp he with rfl | he
        · exact Std.lt_of_le_of_ne (Std.not_lt.mp hlt) (Ne.symm hne)
        · exact hhead e he

theorem collect_ascending (chars : List Char) {found : List Char} (h : Ascending found) :
    Ascending (collect chars found) := by
  induction chars generalizing found with
  | nil => exact h
  | cons c chars ih => exact ih (insertChar_ascending c h)

theorem offending_ascending (name : String) : Ascending (offending name) :=
  collect_ascending _ .nil

end Filename

end UploadHooks
