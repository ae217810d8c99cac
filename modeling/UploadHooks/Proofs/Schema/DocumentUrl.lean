import Mathlib.Data.List.Basic
import UploadHooks.Proofs.Hook.Interactions
import UploadHooks.Proofs.Schema.Key
import UploadHooks.Proofs.Url.Reading

/-!
# Staying inside a container

On the web a key is two segments behind the path of the base, whatever
stands in its ids. The folder is a name. The file is not, as tabs and line
breaks are lost from it, but it ends in `.json` after that too. So neither
is a dot segment however it is spelled (`Key.settled_folder`,
`Key.settled_writtenFile`), and both are added as they are
(`documentUrl?_eq`).

Whoever follows the path of the request comes to the place of the base,
goes into the folder, and finds the file there. There is one base whose
place is not quite its path: of a path of two slashes nothing is left, as
of a path of one.
-/

namespace UploadHooks

namespace Schema

open Url (Settled encodeSegment isDot isDoubleDot stem withoutTrailingEmpty)

/-! ## The segments of a key -/

theorem specialSegment_of_isDigit {c : Char} (h : c.isDigit = true) :
    Url.Percent.specialSegment c = false := by
  have hdigits : ∀ n, n < 58 → 48 ≤ n → Url.Percent.specialSegment (Char.ofNat n) = false := by
    decide
  have hrange : 48 ≤ c.toNat ∧ c.toNat ≤ 57 := by
    simpa [Char.isDigit, UInt32.le_iff_toNat_le] using h
  rw [← Char.ofNat_toNat c]
  exact hdigits _ (Nat.lt_succ_of_le hrange.2) hrange.1

/-- Nothing that ends so is a dot segment, in any spelling. -/
theorem not_dot_of_json (s : String) :
    isDot (s ++ ".json") = false ∧ isDoubleDot (s ++ ".json") = false := by
  have hsuffix : ".json".toList <:+ (s ++ ".json").toList := ⟨s.toList, String.toList_append.symm⟩
  have hdot : ∀ d ∈ [".", "%2e", "%2E"], ¬ ".json".toList <:+ d.toList := by decide
  have hdoubleDot : ∀ d ∈ ["..", "%2e%2e", "%2e%2E", "%2E%2e", "%2E%2E", "%2e.", "%2E.", ".%2e",
      ".%2E"], ¬ ".json".toList <:+ d.toList := by
    decide
  exact ⟨Bool.eq_false_iff.mpr fun h => hdot _ (List.contains_iff_mem.mp h) hsuffix,
    Bool.eq_false_iff.mpr fun h => hdoubleDot _ (List.contains_iff_mem.mp h) hsuffix⟩

namespace Key

variable (key : Key)

/-- The file as it is written in a URL. -/
def writtenFile : String :=
  encodeSegment true (key.useCase ++ "-" ++ key.useCaseCategory) ++ ".json"

theorem encodeSegment_file : encodeSegment true key.file = key.writtenFile := by
  have hjson : encodeSegment true ".json" = ".json" := rfl
  rw [file, Url.encodeSegment_append, hjson, writtenFile]

theorem settled_writtenFile : Settled key.writtenFile := by
  obtain ⟨hdot, hdoubleDot⟩ : isDot key.writtenFile = false ∧ isDoubleDot key.writtenFile = false :=
    not_dot_of_json _
  rw [← encodeSegment_file] at hdot hdoubleDot ⊢
  exact Url.settled_encodeSegment hdot hdoubleDot

theorem specialSegment_of_mem_folder {c : Char} (h : c ∈ key.folder.toList) :
    Url.Percent.specialSegment c = false := by
  rcases mem_folder h with rfl | hdigit
  · rfl
  · exact specialSegment_of_isDigit hdigit

theorem isName_folder : Url.IsName key.folder := by
  refine ⟨folder_ne (by decide), folder_ne (by decide), List.any_eq_false.mpr fun c hc => ?_⟩
  have hset := key.specialSegment_of_mem_folder hc
  simp only [Url.Percent.specialSegment, Url.Percent.segment, Bool.or_eq_false_iff] at hset
  exact Bool.eq_false_iff.mp (Url.isBreak_of_path hset.1.1.1)

theorem encodeSegment_folder : encodeSegment true key.folder = key.folder := by
  rw [encodeSegment, Url.dropBreaks_eq_self_iff.mpr key.isName_folder.2.2, if_pos rfl,
    Url.Percent.encode_eq_self fun c hc => key.specialSegment_of_mem_folder hc,
    String.ofList_toList]

theorem settled_folder : Settled key.folder := by
  have hstands := key.isName_folder.stands true
  have hsettled := Url.settled_encodeSegment
    (Url.not_isDot_of_stands hstands key.isName_folder.1)
    (Url.not_isDoubleDot_of_stands hstands key.isName_folder.2.1)
  rwa [encodeSegment_folder] at hsettled

end Key

/-! ## The URL of a document -/

/-- The folder is added as a name. The file need not be one, as it may hold
tabs and line breaks, but it is no dot segment either. -/
theorem documentUrl?_eq {base : Url} {names : List String} (hpath : base.path = .segments names)
    (hspecial : base.isSpecial = true) (key : Key) : documentUrl? base key =
      some { base with path := .segments (stem names ++ [key.folder, key.writtenFile]) } := by
  have hfolder (names : List String) : Url.appendSegment true names key.folder =
      Url.dropSoleEmpty names ++ [key.folder] := by
    rw [Url.appendSegment_of_isName key.isName_folder, key.encodeSegment_folder]
  have hfile (names : List String) : Url.appendSegment true names key.file =
      Url.dropSoleEmpty names ++ [key.writtenFile] := by
    have hsettled := key.settled_writtenFile
    rw [← key.encodeSegment_file] at hsettled ⊢
    exact Url.appendSegment_of_not_dot hsettled.not_dot hsettled.not_doubleDot names
  have hne : stem names ++ [key.folder] ≠ [""] :=
    Url.append_ne_sole (.inr (Key.folder_ne (by decide)))
  rw [documentUrl?, Url.extendPath_of_segments hpath, hspecial, Key.segments, List.foldl_cons,
    List.foldl_cons, List.foldl_nil, hfolder, hfile]
  rw [← stem, Url.dropSoleEmpty_of_ne hne, List.append_assoc]
  rfl

/-- Two keys have one URL if they have one path, apart from the tabs and
line breaks in their ids. -/
theorem documentUrl?_eq_iff {base : Url} {names : List String} (hpath : base.path = .segments names)
    (hspecial : base.isSpecial = true) {key key' : Key} :
    documentUrl? base key = documentUrl? base key' ↔ key.major = key'.major ∧
      Url.dropBreaks key.file.toList = Url.dropBreaks key'.file.toList := by
  have hwritten : key.writtenFile = key'.writtenFile ↔
      Url.dropBreaks key.file.toList = Url.dropBreaks key'.file.toList := by
    rw [← key.encodeSegment_file, ← key'.encodeSegment_file]
    constructor
    · intro h
      have hdecoded := Url.decodeText?_encodeSegment true key.file
      rw [h, Url.decodeText?_encodeSegment, Option.some.injEq] at hdecoded
      exact (String.ofList_inj.mp hdecoded).symm
    · intro h
      rw [encodeSegment, encodeSegment, h]
  rw [documentUrl?_eq hpath hspecial, documentUrl?_eq hpath hspecial, ← Key.folder_eq_iff,
    ← hwritten]
  simp

/-- The ids of a key do not lead out of the container. Below a base that
was read from any text, the document of a key is asked for by one request,
to the base with two segments added to its path: the folder of the version
and a file that ends in `.json`. The rest of the base is not touched, and
of its path no more than the trailing slash goes, except that of two
slashes neither is left. However the ids are written, the path of the
request is read as these segments, and the file as its name without tabs
and line breaks. -/
theorem document_requested_below_base {text : String} {base : Url}
    (hparse : Url.parse text = .ok base) (hweb : base.isWeb = true) (key : Key) :
    ∃ names, base.path = .segments names ∧
      (names ≠ ["", ""] → stem names = withoutTrailingEmpty names) ∧
      (names = ["", ""] → stem names = []) ∧
      ∃ url, documentUrl? base key = some url ∧
        url = { base with path := .segments (stem names ++ [key.folder, key.writtenFile]) } ∧
        Url.pathAfterAuthority true url.path.text.toList =
          stem names ++ [key.folder, key.writtenFile] ∧
        (∀ c ∈ ['/', '\\', '?', '#'], c ∉ key.writtenFile.toList) ∧
        Url.Percent.decodeText? key.writtenFile =
          some (String.ofList (Url.dropBreaks key.file.toList)) ∧
        ∀ documents, ∃ outcome,
          (webStore base documents key).attempts = [⟨⟨.get, url, none⟩, outcome⟩] := by
  obtain ⟨names, hpath, hnames⟩ := Url.settled_of_parse hparse hweb
  have hspecial : base.isSpecial = true := by
    simp only [Url.isWeb, Bool.or_eq_true, beq_iff_eq] at hweb
    rw [Url.isSpecial]
    rcases hweb with h | h <;> rw [h] <;> rfl
  have hurl := documentUrl?_eq hpath hspecial key
  have hadded : ∀ s ∈ [key.folder, key.writtenFile], Settled s := by
    simp only [List.forall_mem_cons]
    exact ⟨key.settled_folder, key.settled_writtenFile, fun s hs => absurd hs List.not_mem_nil⟩
  have hsettled : ∀ s ∈ stem names ++ [key.folder, key.writtenFile], Settled s :=
    List.forall_mem_append.mpr ⟨fun s hs => hnames s (Url.mem_of_mem_stem hs), hadded⟩
  refine ⟨names, hpath, Url.stem_of_ne, fun h => by rw [h]; rfl, _, hurl, rfl, ?_, ?_, ?_, ?_⟩
  · exact Url.pathAfterAuthority_text
      (List.append_ne_nil_of_right_ne_nil _ (List.cons_ne_nil _ _)) hsettled
  · exact key.settled_writtenFile.no_delimiter
  · rw [← key.encodeSegment_file]
    exact Url.decodeText?_encodeSegment true key.file
  · exact fun documents => ⟨_, attempts_webStore hurl documents⟩

/-- Neither the tab that hides a dot segment nor an escape in an id leads
anywhere else. -/
theorem document_requested_for_dots_and_slashes :
    let base : Url := ⟨"https", .authority ⟨"reader", "", "blob.test", some 8443⟩,
      .segments ["upload%20configs", ""], some "sig=x", none⟩
    let key : Key := ⟨"..\t/..", ".?#%2e\\", 3⟩
    Url.parse "https://reader@blob.test:8443/a/../upload configs/?sig=x" = .ok base ∧
      documentUrl? base key = some { base with
        path := .segments ["upload%20configs", "v3", "..%2F..-.%3F%23%252e%5C.json"] } ∧
      Url.pathAfterAuthority true
          "/upload%20configs/v3/..%2F..-.%3F%23%252e%5C.json".toList =
        ["upload%20configs", "v3", "..%2F..-.%3F%23%252e%5C.json"] := by
  intro base key
  have hparse :
      Url.parse "https://reader@blob.test:8443/a/../upload configs/?sig=x" = .ok base := by
    decide +kernel
  obtain ⟨names, hpath, hstem, -, url, hurl, hbelow, hread, -⟩ :=
    document_requested_below_base hparse rfl key
  obtain rfl : ["upload%20configs", ""] = names := Url.Path.segments.inj hpath
  have hkept : stem ["upload%20configs", ""] = ["upload%20configs"] := by
    rw [hstem (by decide)]
    rfl
  have hadded : key.folder = "v3" ∧ key.writtenFile = "..%2F..-.%3F%23%252e%5C.json" := by
    decide +kernel
  rw [hkept, hadded.1, hadded.2] at hbelow hread
  refine ⟨hparse, hurl.trans (congrArg some hbelow), ?_⟩
  rw [hbelow] at hread
  exact hread

/-- A base of two slashes does not keep the one that is no trailing
slash. -/
theorem double_slash_base_keeps_no_slash :
    let base : Url := ⟨"http", .authority ⟨"", "", "schema.test", none⟩, .segments ["", ""],
      none, none⟩
    let key : Key := ⟨"a", "b", 1⟩
    Url.parse "http://schema.test//" = .ok base ∧ base.isWeb = true ∧
      documentUrl? base key = some { base with path := .segments ["v1", "a-b.json"] } ∧
      ¬ ∃ file, documentUrl? base key =
        some { base with path := .segments (withoutTrailingEmpty ["", ""] ++ ["v1", file]) } := by
  intro base key
  have hurl : documentUrl? base key =
      some { base with path := .segments ["v1", "a-b.json"] } := by
    decide +kernel
  refine ⟨by decide +kernel, rfl, hurl, ?_⟩
  rintro ⟨file, h⟩
  rw [hurl] at h
  have hpath := Url.Path.segments.inj (congrArg Url.path (Option.some.inj h))
  exact absurd (List.cons.inj hpath).1 (by decide)

end Schema

end UploadHooks
