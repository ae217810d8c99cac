import UploadHooks.Proofs.Schema.Key

/-!
# Staying inside a directory

The ids in a key come from clients, and a path that is put together from
them must not lead anywhere but to the entry that the key stands for. What
is read is what lies where the path leads (`readFile_eq_ok`), so this is a
matter of `walk`.

A file name without a slash of either kind is one component of a path
(`Key.isComponent_file`): it ends in `.json`, so however many dots are in
the ids it is no step up, and nothing in it separates. The walk along
folder and file then ends at the entry of these two names
(`Key.walk_folder_file`). A name with a slash in it is not looked up at
all (`fetchFile_of_slash`), because it could lead anywhere.

So the answer of the store depends on that one entry (`fetchFile_congr`). It
takes the folder to be there or not (`FolderOrNothing`): a file in its
place, or a folder that cannot be read, gives an answer of its own. Where
names have a greatest length, too long a name is refused in a folder that
is there, and absent from one that is not.
-/

namespace UploadHooks

namespace Schema

/-! ## Where paths lead -/

section Walk

variable (isSeparator : Char → Bool)

/-- An ordinary name, which is one piece of a path. -/
structure IsComponent (name : String) : Prop where
  no_separator : ∀ c ∈ name.toList, isSeparator c = false
  ne_empty : name ≠ ""
  ne_dot : name ≠ "."
  ne_dots : name ≠ ".."

variable {isSeparator}

namespace IsComponent

variable {name : String} (h : IsComponent isSeparator name) (place : List String)
include h

theorem pathPieces_eq : pathPieces isSeparator name = [name] := by
  rw [pathPieces, List.splitOnP_eq_singleton h.no_separator, List.map_singleton,
    String.ofList_toList]

theorem startOf_eq : startOf isSeparator place name = place := by
  have hrelative : name.toList.head?.any isSeparator = false := by
    cases hhead : name.toList.head? with
    | none => rfl
    | some c => exact h.no_separator c (List.mem_of_mem_head? hhead)
  rw [startOf, hrelative]
  rfl

theorem stepAlong_eq : stepAlong place name = place ++ [name] := by
  rw [stepAlong, if_neg (not_or.mpr ⟨h.ne_empty, h.ne_dot⟩), if_neg h.ne_dots]

theorem walk_eq : walk isSeparator place name = place ++ [name] := by
  rw [walk, h.pathPieces_eq, h.startOf_eq, List.foldl_cons, List.foldl_nil, h.stepAlong_eq]

end IsComponent

end Walk

/-! ## The names of a key -/

/-- What separates the pieces of a path, on one system or another. -/
def IsSlash (c : Char) : Prop := c = '/' ∨ c = '\\'

instance (c : Char) : Decidable (IsSlash c) := inferInstanceAs (Decidable (_ ∨ _))

theorem no_slash_of_any {text : List Char} (h : text.any (IsSlash ·) = false) :
    ∀ c ∈ text, ¬ IsSlash c := fun c hc hslash =>
  List.any_eq_false.mp h c hc (decide_eq_true hslash)

namespace Key

variable {key : Key}

/-- A slash in the name of the file comes from an id. -/
theorem leavesFolder_file_iff : leavesFolder key.file = true ↔
    ∃ c ∈ key.useCase.toList ++ key.useCaseCategory.toList, IsSlash c := by
  have hhyphen : ¬ IsSlash '-' := by decide
  have hjson : ∀ c ∈ ".json".toList, ¬ IsSlash c := no_slash_of_any (by decide)
  simp only [leavesFolder, List.any_eq_true, Bool.or_eq_true, beq_iff_eq, toList_file,
    List.mem_append, List.mem_cons]
  constructor
  · rintro ⟨c, (huse | rfl | hcategory) | hc, hslash⟩
    · exact ⟨c, .inl huse, hslash⟩
    · exact absurd hslash hhyphen
    · exact ⟨c, .inr hcategory, hslash⟩
    · exact absurd hslash (hjson c hc)
  · rintro ⟨c, huse | hcategory, hslash⟩
    · exact ⟨c, .inl (.inl huse), hslash⟩
    · exact ⟨c, .inl (.inr (.inr hcategory)), hslash⟩

theorem no_slash_file (h : leavesFolder key.file = false) : ∀ c ∈ key.file.toList, ¬ IsSlash c := by
  simpa [leavesFolder, IsSlash] using h

theorem two_lt_length_file (key : Key) : 2 < key.file.toList.length := by
  have hjson : ".json".toList.length = 5 := rfl
  simp only [toList_file, List.length_append, List.length_cons, hjson]
  omega

section Components

variable {isSeparator : Char → Bool} (hslash : ∀ c, isSeparator c = true → IsSlash c)
include hslash

theorem isComponent_folder (key : Key) : IsComponent isSeparator key.folder := by
  refine ⟨fun c hc => ?_, folder_ne (by decide), folder_ne (by decide), folder_ne (by decide)⟩
  refine Bool.eq_false_iff.mpr fun hsep => ?_
  rcases hslash c hsep with rfl | rfl
  · exact absurd (mem_folder hc) (by decide)
  · exact absurd (mem_folder hc) (by decide)

theorem isComponent_file (h : ∀ c ∈ key.file.toList, ¬ IsSlash c) :
    IsComponent isSeparator key.file := by
  have hlong : ∀ name : String, name.toList.length ≤ 2 → key.file ≠ name := by
    rintro name hname rfl
    exact absurd key.two_lt_length_file (Nat.not_lt.mpr hname)
  refine ⟨fun c hc => ?_, hlong _ (by decide), hlong _ (by decide), hlong _ (by decide)⟩
  exact Bool.eq_false_iff.mpr fun hsep => h c hc (hslash c hsep)

theorem walk_folder_file (h : ∀ c ∈ key.file.toList, ¬ IsSlash c) (root : List String) :
    walk isSeparator (walk isSeparator root key.folder) key.file =
      root ++ [key.folder, key.file] := by
  rw [(key.isComponent_folder hslash).walk_eq, (isComponent_file hslash h).walk_eq,
    List.append_assoc]
  rfl

end Components

end Key

/-! ## What is read -/

/-- What is read along a path lies at its end. -/
theorem readAlong_eq_ok {disk : FileTree} {place pieces : List String} {content : List UInt8}
    (h : readAlong disk place pieces = .ok content) :
    disk (pieces.foldl stepAlong place) = some (.file content) := by
  induction pieces generalizing place with
  | nil =>
      rw [readAlong] at h
      split at h
      · cases h
      · next hentry => rw [List.foldl_nil, hentry, Except.ok.inj h]
      · cases h
      · cases h
  | cons piece pieces ih =>
      rw [readAlong] at h
      split at h
      · cases h
      · cases h
      · cases h
      · split at h
        · cases h
        · exact ih h

theorem readFile_eq_ok {d : Directory} {folder file : String} {content : List UInt8}
    (h : readFile d folder file = .ok content) :
    d.disk (walk separates (walk separates d.place folder) file) = some (.file content) := by
  simp only [readFile] at h
  split at h
  · cases h
  · split at h
    · cases h
    · exact readAlong_eq_ok h

theorem isSlash_of_separates {c : Char} (h : separates c = true) : IsSlash c :=
  .inl (beq_iff_eq.mp h)

/-- The folder is there, or neither the folder nor anything in it. -/
def FolderOrNothing (d : Directory) (folder : String) : Prop :=
  d.entry? [folder] = some .folder ∨
    d.entry? [folder] = none ∧ ∀ file, d.entry? [folder, file] = none

/-- Along one more piece the entry behind it decides, and that before it
only if it is no folder or the piece is too long for a name. -/
theorem readAlong_congr {disk disk' : FileTree} {place place' : List String} {piece : String}
    (h : disk place = some .folder ∨ disk place = none ∧ disk (stepAlong place piece) = none)
    (h' : disk' place' = some .folder ∨ disk' place' = none ∧ disk' (stepAlong place' piece) = none)
    (hentry : disk (stepAlong place piece) = disk' (stepAlong place' piece))
    (hlength : piece.utf8ByteSize ≤ longestName ∨ disk place = disk' place') :
    readAlong disk place [piece] = readAlong disk' place' [piece] := by
  have hshort : disk place ≠ disk' place' → ¬ longestName < piece.utf8ByteSize :=
    fun hne => Nat.not_lt.mpr (hlength.resolve_right hne)
  rcases h with hthere | ⟨hgone, hnothing⟩
  · rcases h' with hthere' | ⟨hgone', hnothing'⟩
    · simp only [readAlong, hthere, hthere', hentry]
    · have hfits := hshort (by simp [hthere, hgone'])
      simp only [readAlong, hthere, hgone', hentry, hnothing', hfits, if_false]
  · rcases h' with hthere' | ⟨hgone', hnothing'⟩
    · have hfits := hshort (by simp [hgone, hthere'])
      simp only [readAlong, hgone, hthere', ← hentry, hnothing, hfits, if_false]
    · simp only [readAlong, hgone, hgone']

section Agreeing

variable {d d' : Directory} {folder file : String}

theorem readFile_congr (hfolder : IsComponent separates folder) (hfile : IsComponent separates file)
    (hpath : d.path = d'.path) (h : FolderOrNothing d folder) (h' : FolderOrNothing d' folder)
    (hentry : d.entry? [folder, file] = d'.entry? [folder, file])
    (hlength : file.utf8ByteSize ≤ longestName ∨ d.entry? [folder] = d'.entry? [folder]) :
    readFile d folder file = readFile d' folder file := by
  have hbelow : ∀ d : Directory,
      d.disk (stepAlong (d.place ++ [folder]) file) = d.entry? [folder, file] := by
    intro d
    rw [hfile.stepAlong_eq, List.append_assoc]
    rfl
  have hread : readAlong d.disk (d.place ++ [folder]) [file] =
      readAlong d'.disk (d'.place ++ [folder]) [file] := by
    refine readAlong_congr ?_ ?_ ?_ hlength
    · rw [hbelow]
      exact h.imp_right fun hgone => ⟨hgone.1, hgone.2 file⟩
    · rw [hbelow]
      exact h'.imp_right fun hgone => ⟨hgone.1, hgone.2 file⟩
    · rw [hbelow, hbelow, hentry]
  simp only [readFile, hpath, hfolder.walk_eq, hfile.startOf_eq, hfile.pathPieces_eq, hread]

end Agreeing

theorem fetchFile_of_slash {key : Key}
    (h : ∃ c ∈ key.useCase.toList ++ key.useCaseCategory.toList, IsSlash c) (d : Directory) :
    fetchFile d key = .error (.notFound key.path .absent) := by
  rw [fetchFile, Key.leavesFolder_file_iff.mpr h]
  rfl

/-- A document is what lies where the path leads. -/
theorem fetchFile_eq_ok {key : Key} {d : Directory} {config : Config}
    (h : fetchFile d key = .ok config) : ∃ content,
      d.disk (walk separates (walk separates d.place key.folder) key.file) = some (.file content) ∧
      decodeAt key content = .ok config := by
  rw [fetchFile] at h
  split at h
  · cases h
  · cases hread : readFile d key.folder key.file with
    | ok content =>
        rw [hread] at h
        exact ⟨content, readFile_eq_ok hread, h⟩
    | error fault =>
        rw [hread] at h
        cases fault <;> cases h

/-- Only names without a slash are looked up, and those are components. -/
theorem fetchFile_congr {key : Key} {d d' : Directory} (hpath : d.path = d'.path)
    (h : FolderOrNothing d key.folder) (h' : FolderOrNothing d' key.folder)
    (hentry : d.entry? [key.folder, key.file] = d'.entry? [key.folder, key.file])
    (hlength : key.file.utf8ByteSize ≤ longestName ∨
      d.entry? [key.folder] = d'.entry? [key.folder]) :
    fetchFile d key = fetchFile d' key := by
  cases hguard : leavesFolder key.file with
  | true =>
      have hslash := Key.leavesFolder_file_iff.mp hguard
      rw [fetchFile_of_slash hslash, fetchFile_of_slash hslash]
  | false =>
      have hseparates : ∀ c, separates c = true → IsSlash c := fun _ => isSlash_of_separates
      have hfile : IsComponent separates key.file :=
        Key.isComponent_file hseparates (Key.no_slash_file hguard)
      rw [fetchFile, fetchFile, readFile_congr (key.isComponent_folder hseparates) hfile hpath h h'
        hentry hlength]

/-- The ids of a key do not lead out of the directory. Whatever there is
besides on two disks, the stores of two directories of one path answer the
same as soon as they agree on the entry of the key; if that name is longer
than a name can be, also on whether its folder is there. The entry is where
the path of folder and file leads, each of them being one component of it, and
a document that is found lies there. If an id has a slash of either kind,
no directory has the document. -/
theorem fetch_confined_to_own_entry (key : Key) :
    (∀ d d' : Directory, d.path = d'.path →
      FolderOrNothing d key.folder → FolderOrNothing d' key.folder →
      d.entry? [key.folder, key.file] = d'.entry? [key.folder, key.file] →
      (key.file.utf8ByteSize ≤ longestName ∨ d.entry? [key.folder] = d'.entry? [key.folder]) →
      directoryStore d key = directoryStore d' key) ∧
    ((∀ c ∈ key.file.toList, ¬ IsSlash c) →
      ∀ isSeparator : Char → Bool, (∀ c, isSeparator c = true → IsSlash c) →
        IsComponent isSeparator key.folder ∧ IsComponent isSeparator key.file ∧
        ∀ root, walk isSeparator (walk isSeparator root key.folder) key.file =
          root ++ [key.folder, key.file]) ∧
    (∀ (d : Directory) config, (directoryStore d key).result = .ok config → ∃ content,
      d.disk (walk separates (walk separates d.place key.folder) key.file) = some (.file content) ∧
      decodeAt key content = .ok config) ∧
    ((∃ c ∈ key.useCase.toList ++ key.useCaseCategory.toList, IsSlash c) →
      ∀ d : Directory, directoryStore d key = ⟨.error (.notFound key.path .absent), []⟩) := by
  refine ⟨fun d d' hpath h h' hentry hlength => ?_, fun hfile isSeparator hslash => ?_,
    fun d config => fetchFile_eq_ok, fun hslash d => ?_⟩
  · rw [directoryStore, directoryStore, fetchFile_congr hpath h h' hentry hlength]
  · exact ⟨key.isComponent_folder hslash, Key.isComponent_file hslash hfile,
      Key.walk_folder_file hslash hfile⟩
  · rw [directoryStore, fetchFile_of_slash hslash]

/-- Dots alone are a name, and the same dots with slashes are none. Without
the guard they would lead to what is outside. -/
theorem fetch_confined_for_dots :
    let key : Key := ⟨"..", "..", 1⟩
    let outside : Key := ⟨"../../etc/passwd", "x", 1⟩
    let disk : FileTree := fun names => if names = ["srv", "v1"] then some .folder else none
    let disk' : FileTree := fun names =>
      if names = [] ∨ names = ["srv"] ∨ names = ["srv", "v1"] ∨ names = ["etc"] then some .folder
      else if names = ["etc", "passwd-x.json"] then some (.file [0x5B, 0x5D])
      else none
    let d : Directory := ⟨"/srv", ["srv"], disk⟩
    let d' : Directory := ⟨"/srv", ["srv"], disk'⟩
    directoryStore d key = directoryStore d' key ∧
      walk IsSlash (walk IsSlash ["srv"] key.folder) key.file = ["srv", "v1", "..-...json"] ∧
      (directoryStore d' outside).result =
        .error (.notFound "v1/../../etc/passwd-x.json" .absent) ∧
      readFile d' outside.folder outside.file = .ok [0x5B, 0x5D] := by
  intro key outside disk disk' d d'
  obtain ⟨hsame, hinside, -⟩ := fetch_confined_to_own_entry key
  obtain ⟨-, -, -, habsent⟩ := fetch_confined_to_own_entry outside
  refine ⟨?_, ?_, ?_, by decide +kernel⟩
  · exact hsame d d' rfl (.inl (by decide)) (.inl (by decide)) (by decide) (.inl (by decide))
  · have hnames : key.folder = "v1" ∧ key.file = "..-...json" := by decide
    have hfile : ∀ c ∈ key.file.toList, ¬ IsSlash c := no_slash_of_any (by decide)
    rw [(hinside hfile (IsSlash ·) fun c hc => of_decide_eq_true hc).2.2 ["srv"], hnames.1,
      hnames.2]
    rfl
  · have hpath : outside.path = "v1/../../etc/passwd-x.json" := by decide
    rw [habsent ⟨'/', by decide, .inl rfl⟩, hpath]

end Schema

end UploadHooks
