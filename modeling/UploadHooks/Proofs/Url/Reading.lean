import UploadHooks.Proofs.Results
import UploadHooks.Proofs.Url.Segments
import UploadHooks.Url.Parse

/-!
# Paths that read as they are written

Reading a path takes it apart at slashes, encodes what must not stand in
it, and resolves its dot segments. A segment that is left after that is
`Settled`: it has no delimiter in it, nothing in it is to be encoded, and
it is no dot segment. Written down and read again, a path of settled
segments is the same path (`pathAfterAuthority_text`). So a path can be
followed from its text alone, and nothing in it leads up.

The path of any web URL is settled, since it was read
(`settled_of_parse`). A segment that is added to it is encoded, which
leaves it to be shown that it is no dot segment (`settled_encodeSegment`).
-/

namespace UploadHooks

namespace Url

/-! ## Settled segments -/

/-- Nothing in it is to be encoded, and nothing separates it, slashes being
of either kind. -/
def Plain (segment : String) : Prop :=
  ∀ c ∈ segment.toList, Percent.path c = false ∧ isSlash true c = false

/-- A segment that reading does not change. -/
structure Settled (segment : String) : Prop where
  plain : Plain segment
  not_dot : isDot segment = false
  not_doubleDot : isDoubleDot segment = false

theorem settled_empty : Settled "" := ⟨fun _ hc => absurd hc List.not_mem_nil, rfl, rfl⟩

theorem Settled.no_delimiter {segment : String} (h : Settled segment) :
    ∀ c ∈ ['/', '\\', '?', '#'], c ∉ segment.toList := by
  have hdelimiters :
      (['/', '\\', '?', '#'].all fun c => Percent.path c || isSlash true c) = true := by
    decide
  intro c hc hmem
  obtain ⟨hpath, hslash⟩ := h.plain c hmem
  have hdelimiter := List.all_eq_true.mp hdelimiters c hc
  rw [hpath, hslash] at hdelimiter
  cases hdelimiter

theorem isBreak_of_path {c : Char} (h : Percent.path c = false) : isBreak c = false := by
  refine Bool.eq_false_iff.mpr fun hbreak => ?_
  simp only [isBreak, Bool.or_eq_true, beq_iff_eq] at hbreak
  rcases hbreak with (rfl | rfl) | rfl <;> exact absurd h (by decide)

theorem Plain.writtenPiece_eq {segment : String} (h : Plain segment) :
    writtenPiece segment.toList = segment := by
  have hbreaks : dropBreaks segment.toList = segment.toList :=
    dropBreaks_eq_self_iff.mpr (List.any_eq_false.mpr fun c hc =>
      Bool.eq_false_iff.mp (isBreak_of_path (h c hc).1))
  rw [writtenPiece, hbreaks, Percent.encode_eq_self fun c hc => (h c hc).1, String.ofList_toList]

/-! ## Writing and reading -/

/-- Any piece may be in front, as each segment is to those behind it. -/
theorem splitOnP_append_text {front : List Char} {segments : List String}
    (hfront : ∀ c ∈ front, isSlash true c = false) (h : ∀ s ∈ segments, Settled s) :
    (front ++ (Path.text (.segments segments)).toList).splitOnP (isSlash true) =
      front :: segments.map String.toList := by
  rw [toList_text_segments]
  induction segments generalizing front with
  | nil => rw [List.flatMap_nil, List.append_nil, List.splitOnP_eq_singleton hfront, List.map_nil]
  | cons s segments ih =>
      obtain ⟨hs, hsegments⟩ := List.forall_mem_cons.mp h
      rw [List.flatMap_cons, List.cons_append,
        List.splitOnP_append_cons_of_forall_mem hfront _ rfl,
        ih (fun c hc => (hs.plain c hc).2) hsegments, List.map_cons]

theorem readPath_settled {segments : List String} (h : ∀ s ∈ segments, Settled s)
    (done : List String) : readPath done segments = done ++ segments := by
  induction segments generalizing done with
  | nil => exact (List.append_nil done).symm
  | cons s segments ih =>
      obtain ⟨hs, hsegments⟩ := List.forall_mem_cons.mp h
      cases segments with
      | nil => simp [readPath, endPath, hs.not_dot, hs.not_doubleDot]
      | cons next segments =>
          have hstep : stepPath done s = done ++ [s] := by
            simp [stepPath, hs.not_dot, hs.not_doubleDot]
          rw [readPath, hstep, ih hsegments, List.append_assoc, List.singleton_append]
          exact List.cons_ne_nil _ _

/-- A written path is read as the segments that it has. -/
theorem pathAfterAuthority_text {segments : List String} (hne : segments ≠ [])
    (h : ∀ s ∈ segments, Settled s) :
    pathAfterAuthority true (Path.text (.segments segments)).toList = segments := by
  cases segments with
  | nil => exact absurd rfl hne
  | cons s segments =>
      obtain ⟨hs, hsegments⟩ := List.forall_mem_cons.mp h
      have hwritten : ∀ s' ∈ s :: segments, writtenPiece s'.toList = s' := fun s' hs' =>
        (h s' hs').plain.writtenPiece_eq
      have hpieces : pathPieces true (s.toList ++ (Path.text (.segments segments)).toList) =
          s :: segments := by
        rw [pathPieces, splitOnP_append_text (fun c hc => (hs.plain c hc).2) hsegments,
          ← List.map_cons, List.map_map]
        exact (List.map_congr_left hwritten).trans (List.map_id' _)
      rw [toList_text_segments, List.flatMap_cons, List.cons_append, pathAfterAuthority,
        ← toList_text_segments]
      have hslash : isSlash true '/' = true := rfl
      rw [if_pos hslash, hpieces, readPath_settled h, List.nil_append]

/-! ## What reading settles -/

theorem no_separator_of_mem_splitOnP {p : Char → Bool} {text piece : List Char}
    (h : piece ∈ text.splitOnP p) : ∀ c ∈ piece, p c = false := by
  induction text generalizing piece with
  | nil =>
      rw [List.splitOnP_nil, List.mem_singleton] at h
      rw [h]
      exact fun c hc => absurd hc List.not_mem_nil
  | cons a text ih =>
      rw [List.splitOnP_cons_eq_if_modifyHead] at h
      cases ha : p a with
      | true =>
          rw [ha, if_pos rfl, List.mem_cons] at h
          rcases h with rfl | h
          · exact fun c hc => absurd hc List.not_mem_nil
          · exact ih h
      | false =>
          obtain ⟨first, others, hpieces⟩ :=
            List.exists_cons_of_ne_nil (List.splitOnP_ne_nil p text)
          rw [ha, if_neg Bool.false_ne_true, hpieces, List.modifyHead_cons, List.mem_cons] at h
          rw [hpieces] at ih
          rcases h with rfl | h
          · exact List.forall_mem_cons.mpr ⟨ha, ih List.mem_cons_self⟩
          · exact ih (List.mem_cons_of_mem _ h)

theorem plain_escapeChars :
    ∀ c ∈ Percent.escapeChars, Percent.path c = false ∧ isSlash true c = false := by
  have hplain : (Percent.escapeChars.any fun c => Percent.path c || isSlash true c) = false := by
    decide
  intro c hc
  rw [← Bool.or_eq_false_iff]
  exact Bool.eq_false_iff.mpr (List.any_eq_false.mp hplain c hc)

theorem plain_of_mem_pathPieces {text : List Char} {piece : String}
    (h : piece ∈ pathPieces true text) : Plain piece := by
  obtain ⟨source, hsource, rfl⟩ := List.mem_map.mp h
  intro c hc
  rw [writtenPiece, String.toList_ofList] at hc
  rcases Percent.mem_encode hc with ⟨hmem, hpath⟩ | hescape
  · exact ⟨hpath, no_separator_of_mem_splitOnP hsource c (List.mem_of_mem_filter hmem)⟩
  · exact plain_escapeChars c hescape

section Steps

variable {done : List String} {segment : String}

theorem settled_parentPath (h : ∀ s ∈ done, Settled s) : ∀ s ∈ parentPath done, Settled s := by
  rw [parentPath]
  split
  · exact h
  · exact fun s hs => h s (List.dropLast_subset _ hs)

theorem settled_concat (h : ∀ s ∈ done, Settled s) (hsegment : Settled segment) :
    ∀ s ∈ done ++ [segment], Settled s :=
  List.forall_mem_append.mpr ⟨h, List.forall_mem_singleton.mpr hsegment⟩

theorem settled_stepPath (h : ∀ s ∈ done, Settled s)
    (hplain : Plain segment) : ∀ s ∈ stepPath done segment, Settled s := by
  rw [stepPath]
  split
  · exact settled_parentPath h
  · split
    · exact h
    · exact settled_concat h ⟨hplain, Bool.eq_false_iff.mpr ‹_›, Bool.eq_false_iff.mpr ‹_›⟩

theorem settled_endPath (h : ∀ s ∈ done, Settled s)
    (hplain : Plain segment) : ∀ s ∈ endPath done segment, Settled s := by
  rw [endPath]
  split
  · exact settled_concat (settled_parentPath h) settled_empty
  · split
    · exact settled_concat h settled_empty
    · exact settled_concat h ⟨hplain, Bool.eq_false_iff.mpr ‹_›, Bool.eq_false_iff.mpr ‹_›⟩

end Steps

theorem settled_readPath {done segments : List String} (h : ∀ s ∈ done, Settled s)
    (hplain : ∀ s ∈ segments, Plain s) : ∀ s ∈ readPath done segments, Settled s := by
  induction done, segments using readPath.induct with
  | case1 done => exact h
  | case2 done last =>
      rw [readPath]
      exact settled_endPath h (hplain last List.mem_cons_self)
  | case3 done segment rest hrest ih =>
      obtain ⟨hsegment, hothers⟩ := List.forall_mem_cons.mp hplain
      rw [readPath]
      · exact ih (settled_stepPath h hsegment) hothers
      · exact hrest

theorem settled_pathAfterAuthority (text : List Char) :
    ∀ s ∈ pathAfterAuthority true text, Settled s := by
  have hnone : ∀ s ∈ ([] : List String), Settled s := fun s hs => absurd hs List.not_mem_nil
  rw [pathAfterAuthority.eq_def]
  split
  · exact List.forall_mem_singleton.mpr settled_empty
  · split
    · exact settled_readPath hnone fun s hs => plain_of_mem_pathPieces hs
    · exact settled_readPath hnone fun s hs => plain_of_mem_pathPieces hs

/-! ## Web URLs -/

theorem readWithAuthority_eq_ok {scheme : String} {text : List Char} {u : Url}
    (h : readWithAuthority scheme text = .ok u) : u.scheme = scheme ∧
      ∃ pathText, u.path = .segments (pathAfterAuthority (isSpecialScheme scheme) pathText) := by
  simp only [readWithAuthority] at h
  split at h
  · cases h
  · obtain ⟨_, -, h⟩ := bind_eq_ok_iff.mp h
    obtain rfl := Except.ok.inj h
    exact ⟨rfl, _, rfl⟩

theorem scheme_of_readFile {text : List Char} {u : Url} (h : readFile text = .ok u) :
    u.scheme = "file" := by
  simp only [readFile] at h
  split at h
  · obtain rfl := Except.ok.inj h
    rfl
  · split at h
    · obtain rfl := Except.ok.inj h
      rfl
    · obtain ⟨_, -, h⟩ := bind_eq_ok_iff.mp h
      obtain rfl := Except.ok.inj h
      rfl

theorem scheme_of_readOther {scheme : String} {text : List Char} {u : Url}
    (h : readOther scheme text = .ok u) : u.scheme = scheme := by
  rw [readOther.eq_def] at h
  split at h
  · exact (readWithAuthority_eq_ok h).1
  · obtain rfl := Except.ok.inj h
    rfl
  · obtain rfl := Except.ok.inj h
    rfl

/-- The path of a web URL is what stands behind its authority. -/
theorem path_of_parse {text : String} {u : Url} (h : parse text = .ok u) (hweb : u.isWeb = true) :
    ∃ pathText, u.path = .segments (pathAfterAuthority true pathText) := by
  have hscheme : u.scheme = "http" ∨ u.scheme = "https" := by
    simpa only [isWeb, Bool.or_eq_true, beq_iff_eq] using hweb
  rw [parse] at h
  split at h
  · cases h
  · rw [scheme_of_readFile h] at hscheme
    exact absurd hscheme (by decide)
  · next scheme rest _ _ =>
    cases hspecial : isSpecialScheme scheme with
    | true =>
      rw [hspecial, if_pos rfl] at h
      obtain ⟨-, pathText, hpath⟩ := readWithAuthority_eq_ok h
      exact ⟨pathText, hspecial ▸ hpath⟩
    | false =>
      rw [hspecial, if_neg Bool.false_ne_true] at h
      rw [scheme_of_readOther h] at hscheme
      rcases hscheme with rfl | rfl <;> exact absurd hspecial (by decide)

/-- What is a base of web requests has a path of settled segments. -/
theorem settled_of_parse {text : String} {u : Url} (h : parse text = .ok u)
    (hweb : u.isWeb = true) : ∃ names, u.path = .segments names ∧ ∀ s ∈ names, Settled s := by
  obtain ⟨pathText, hpath⟩ := path_of_parse h hweb
  exact ⟨_, hpath, settled_pathAfterAuthority pathText⟩

/-! ## Added segments -/

/-- An encoded segment has a place of its own in a path, unless it is a dot
segment. -/
theorem settled_encodeSegment {s : String} (hdot : isDot (encodeSegment true s) = false)
    (hdoubleDot : isDoubleDot (encodeSegment true s) = false) :
    Settled (encodeSegment true s) := by
  refine ⟨fun c hc => ?_, hdot, hdoubleDot⟩
  rw [encodeSegment, String.toList_ofList] at hc
  rcases Percent.mem_encode hc with ⟨-, hset⟩ | hescape
  · simp only [if_true, Percent.specialSegment, Percent.segment, Bool.or_eq_false_iff] at hset
    obtain ⟨⟨⟨hpath, hslash⟩, -⟩, hbackslash⟩ := hset
    exact ⟨hpath, by simp only [isSlash, hslash, hbackslash, Bool.and_false, Bool.or_false]⟩
  · exact plain_escapeChars c hescape

end Url

end UploadHooks
