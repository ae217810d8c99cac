import Mathlib.Data.List.Forall2
import Mathlib.Data.List.Induction
import UploadHooks.Proofs.Url.Parameters

/-!
# Segments that stay what they are

A base keeps its segments but for the trailing slash (`stem_of_ne`). A
segment added to them should be read back from the path as one segment with
the same text (`Stands`). That is so for names (`IsName`): texts that are
no dot segment and hold no tab or line break. A path is then extended by
the written names, one by one (`foldl_appendSegment_cons`), and its text
tells them apart from each other and from the query behind them
(`written_inj_of_url_text`).

It is so for names only (`isName_of_stands`). A dot segment adds nothing,
so the path is too short. Without its breaks a text reads differently, and
one that becomes a dot segment by losing them leaves an empty segment in
its place, and may take the segment before it away.
-/

namespace UploadHooks

namespace Url

/-! ## Names -/

/-- Whether a text can be a segment as it is. -/
def IsName (s : String) : Prop := s ≠ "." ∧ s ≠ ".." ∧ s.toList.any isBreak = false

instance (s : String) : Decidable (IsName s) :=
  inferInstanceAs (Decidable (_ ∧ _ ∧ s.toList.any isBreak = false))

theorem dropBreaks_eq_self_iff {text : List Char} :
    dropBreaks text = text ↔ text.any isBreak = false := by
  rw [dropBreaks, List.filter_eq_self, List.any_eq_false]
  simp only [Bool.not_eq_true', Bool.not_eq_true]

/-- What comes to its end at such a character in the text of a URL is a
segment. -/
def endsSegment (c : Char) : Bool := c == '/' || c == '?' || c == '#'

/-- A written segment is one in the text of a URL, and reads as the given
text. -/
structure Stands (segment text : String) : Prop where
  decodes : Percent.decodeText? segment = some text
  delimited : ∀ c ∈ segment.toList, endsSegment c = false

theorem stands_rightUnique : Relator.RightUnique Stands := by
  intro segment text text' h h'
  exact Option.some.inj (h.decodes.symm.trans h'.decodes)

/-! ## Writing a segment -/

theorem decodeText?_encodeSegment (special : Bool) (s : String) :
    Percent.decodeText? (encodeSegment special s) = some (String.ofList (dropBreaks s.toList)) := by
  refine Percent.decodeText?_encode ?_ _
  cases special
  · exact Percent.leavesAscii_segment
  · exact Percent.leavesAscii_specialSegment

theorem segment_of_endsSegment {c : Char} (h : endsSegment c = true) :
    Percent.segment c = true := by
  simp only [endsSegment, Bool.or_eq_true, beq_iff_eq] at h
  rcases h with (rfl | rfl) | rfl <;> rfl

theorem delimited_encodeSegment (special : Bool) (s : String) :
    ∀ c ∈ (encodeSegment special s).toList, endsSegment c = false := by
  intro c hc
  have hescape : Percent.escapeChars.any endsSegment = false := by decide
  rw [encodeSegment, String.toList_ofList] at hc
  rcases Percent.mem_encode hc with ⟨-, h⟩ | h
  · cases hends : endsSegment c with
    | false => rfl
    | true =>
        have hset := segment_of_endsSegment hends
        cases special <;> simp [Percent.specialSegment, hset] at h
  · exact Bool.eq_false_iff.mpr (List.any_eq_false.mp hescape c h)

theorem IsName.stands {s : String} (h : IsName s) (special : Bool) :
    Stands (encodeSegment special s) s := by
  refine ⟨?_, delimited_encodeSegment special s⟩
  rw [decodeText?_encodeSegment, dropBreaks_eq_self_iff.mpr h.2.2, String.ofList_toList]

theorem no_breaks_of_stands {special : Bool} {s : String} (h : Stands (encodeSegment special s) s) :
    s.toList.any isBreak = false := by
  have htext := h.decodes
  rw [decodeText?_encodeSegment, Option.some.injEq] at htext
  have hchars := congrArg String.toList htext
  rw [String.toList_ofList] at hchars
  exact dropBreaks_eq_self_iff.mp hchars

theorem encodeSegment_append (special : Bool) (s t : String) :
    encodeSegment special (s ++ t) = encodeSegment special s ++ encodeSegment special t := by
  rw [encodeSegment, String.toList_append, dropBreaks, List.filter_append, Percent.encode_append,
    String.ofList_append]
  rfl

/-! ## Dot segments -/

/-- However a dot segment is spelled, it reads as one. -/
theorem decodeText?_of_isDot {segment : String} (h : isDot segment = true) :
    Percent.decodeText? segment = some "." := by
  have hdecode : ∀ s ∈ [".", "%2e", "%2E"], Percent.decode (Utf8.encode s) = Utf8.encode "." := by
    decide
  rw [Percent.decodeText?, hdecode segment (List.contains_iff_mem.mp h), Utf8.text?_encode]

theorem decodeText?_of_isDoubleDot {segment : String} (h : isDoubleDot segment = true) :
    Percent.decodeText? segment = some ".." := by
  have hdecode : ∀ s ∈ ["..", "%2e%2e", "%2e%2E", "%2E%2e", "%2E%2E", "%2e.", "%2E.", ".%2e",
      ".%2E"], Percent.decode (Utf8.encode s) = Utf8.encode ".." := by
    decide
  rw [Percent.decodeText?, hdecode segment (List.contains_iff_mem.mp h), Utf8.text?_encode]

theorem not_isDot_of_stands {segment text : String} (h : Stands segment text) (htext : text ≠ ".") :
    isDot segment = false := by
  cases hdot : isDot segment with
  | false => rfl
  | true => exact absurd (Option.some.inj (h.decodes.symm.trans (decodeText?_of_isDot hdot))) htext

theorem not_isDoubleDot_of_stands {segment text : String} (h : Stands segment text)
    (htext : text ≠ "..") : isDoubleDot segment = false := by
  cases hdot : isDoubleDot segment with
  | false => rfl
  | true =>
      exact absurd (Option.some.inj (h.decodes.symm.trans (decodeText?_of_isDoubleDot hdot))) htext

/-! ## Adding segments -/

/-- What is left of the segments of a base when others are added. -/
def stem (names : List String) : List String := dropSoleEmpty (dropTrailingEmpty names)

/-- The segments without an empty last one, the trailing slash. -/
def withoutTrailingEmpty (names : List String) : List String :=
  if names.getLast? = some "" then names.dropLast else names

theorem dropSoleEmpty_of_ne {names : List String} (h : names ≠ [""]) :
    dropSoleEmpty names = names := by
  rw [dropSoleEmpty]
  exact h

theorem length_dropSoleEmpty_le (names : List String) :
    (dropSoleEmpty names).length ≤ names.length := by
  by_cases h : names = [""]
  · rw [h]
    exact Nat.zero_le _
  · exact Nat.le_of_eq (congrArg _ (dropSoleEmpty_of_ne h))

/-- Nothing but the trailing slash is lost, as long as not all of the path
is lost: of two slashes neither is left. -/
theorem stem_of_ne {names : List String} (h : names ≠ ["", ""]) :
    stem names = withoutTrailingEmpty names := by
  rw [stem, dropTrailingEmpty, withoutTrailingEmpty]
  by_cases hlast : names.getLast? = some ""
  · obtain ⟨front, rfl⟩ := List.getLast?_eq_some_iff.mp hlast
    cases front with
    | nil => rfl
    | cons first others =>
      have hlength : 1 < (first :: others ++ [""]).length := by simp
      have hsole : first :: others ≠ [""] := fun hsole => h (by rw [hsole]; rfl)
      rw [if_pos ⟨hlength, hlast⟩, if_pos hlast, List.dropLast_concat, dropSoleEmpty_of_ne hsole]
  · have hsole : names ≠ [""] := fun hsole => hlast (by rw [hsole]; rfl)
    rw [if_neg (fun hboth => hlast hboth.2), if_neg hlast, dropSoleEmpty_of_ne hsole]

theorem mem_of_mem_stem {names : List String} {s : String} (h : s ∈ stem names) : s ∈ names := by
  by_cases hne : names = ["", ""]
  · rw [hne] at h
    exact absurd h List.not_mem_nil
  · rw [stem_of_ne hne, withoutTrailingEmpty] at h
    split at h
    · exact List.dropLast_subset _ h
    · exact h

theorem append_ne_sole {names : List String} {s : String} (h : names ≠ [] ∨ s ≠ "") :
    names ++ [s] ≠ [""] := by
  intro hsole
  have heq : names ++ [s] = [] ++ [""] := hsole
  obtain ⟨hnames, hs⟩ := List.append_inj' heq rfl
  rcases h with h | h
  · exact h hnames
  · exact h (List.singleton_inj.mp hs)

section Adding

variable {special : Bool}

/-- A segment is added in its written form, unless that is a dot segment. -/
theorem appendSegment_of_not_dot {s : String} (hdot : isDot (encodeSegment special s) = false)
    (hdoubleDot : isDoubleDot (encodeSegment special s) = false) (names : List String) :
    appendSegment special names s = dropSoleEmpty names ++ [encodeSegment special s] := by
  have hdots : ¬ (s = "." ∨ s = "..") := by
    rintro (rfl | rfl)
    · cases special <;> exact absurd hdot (by decide)
    · cases special <;> exact absurd hdoubleDot (by decide)
  rw [appendSegment, if_neg hdots, endPath, hdoubleDot, hdot]
  rfl

theorem appendSegment_of_isName {s : String} (h : IsName s) (names : List String) :
    appendSegment special names s = dropSoleEmpty names ++ [encodeSegment special s] :=
  appendSegment_of_not_dot (not_isDot_of_stands (h.stands special) h.1)
    (not_isDoubleDot_of_stands (h.stands special) h.2.1) names

theorem foldl_appendSegment {names : List String} (hne : names ≠ []) (hsole : names ≠ [""])
    {segments : List String} (h : ∀ s ∈ segments, IsName s) :
    segments.foldl (appendSegment special) names =
      names ++ segments.map (encodeSegment special) := by
  induction segments generalizing names with
  | nil => exact (List.append_nil names).symm
  | cons s segments ih =>
      obtain ⟨hs, hsegments⟩ := List.forall_mem_cons.mp h
      rw [List.foldl_cons, appendSegment_of_isName hs, dropSoleEmpty_of_ne hsole,
        ih (List.append_ne_nil_of_left_ne_nil hne _) (append_ne_sole (.inl hne)) hsegments,
        List.append_assoc, List.singleton_append, List.map_cons]

/-- Names are added to a path one by one. Only the first of them can find
the path of a sole slash in front of it. -/
theorem foldl_appendSegment_cons {first : String} {others : List String}
    (hfirst : encodeSegment special first ≠ "") (h : ∀ s ∈ first :: others, IsName s)
    (names : List String) : (first :: others).foldl (appendSegment special) names =
      dropSoleEmpty names ++ (first :: others).map (encodeSegment special) := by
  obtain ⟨hname, hothers⟩ := List.forall_mem_cons.mp h
  rw [List.foldl_cons, appendSegment_of_isName hname,
    foldl_appendSegment (List.append_ne_nil_of_right_ne_nil _ (List.cons_ne_nil _ _))
      (append_ne_sole (.inr hfirst)) hothers,
    List.append_assoc, List.singleton_append, List.map_cons]

/-! ## Nothing but names -/

theorem length_parentPath_le (names : List String) : (parentPath names).length ≤ names.length := by
  rw [parentPath]
  split
  · exact Nat.le_refl _
  · rw [List.length_dropLast]
    exact Nat.sub_le ..

theorem length_appendSegment_le (names : List String) (s : String) :
    (appendSegment special names s).length ≤ names.length + 1 := by
  have hsole := length_dropSoleEmpty_le names
  have hparent := length_parentPath_le (dropSoleEmpty names)
  rw [appendSegment]
  split
  · exact Nat.le_succ _
  · rw [endPath]
    split
    · simp only [List.length_append, List.length_singleton]
      omega
    · split <;> simp only [List.length_append, List.length_singleton] <;> omega

theorem length_foldl_appendSegment_le (names segments : List String) :
    (segments.foldl (appendSegment special) names).length ≤ names.length + segments.length := by
  induction segments generalizing names with
  | nil => exact Nat.le_refl _
  | cons s segments ih =>
      have hstep : (appendSegment special names s).length ≤ _ := length_appendSegment_le names s
      have hrest := ih (appendSegment special names s)
      simp only [List.foldl_cons, List.length_cons]
      omega

/-- A text that adds a segment which stands for it is a name, and nothing
else about the path has changed. A text that is resolved leaves an empty
segment, which stands for the empty text only. -/
theorem isName_of_appendSegment {names front : List String} {s segment : String}
    (hadded : appendSegment special names s = front ++ [segment]) (hstands : Stands segment s)
    (hlength : names.length ≤ front.length) :
    IsName s ∧ dropSoleEmpty names = front := by
  by_cases hdots : s = "." ∨ s = ".."
  · rw [appendSegment, if_pos hdots] at hadded
    rw [hadded, List.length_append] at hlength
    exact absurd hlength (Nat.not_succ_le_self _)
  · have hempty : segment = "" → encodeSegment special s = "" := by
      rintro rfl
      have htext : Percent.decodeText? "" = some "" := Utf8.text?_encode ""
      obtain rfl := Option.some.inj (htext.symm.trans hstands.decodes)
      rfl
    rw [appendSegment, if_neg hdots, endPath] at hadded
    obtain ⟨hdot, hdoubleDot⟩ := not_or.mp hdots
    split at hadded
    · next h =>
      obtain ⟨-, hsegment⟩ := List.append_inj' hadded rfl
      rw [hempty (List.singleton_inj.mp hsegment).symm] at h
      cases h
    · split at hadded
      · next h =>
        obtain ⟨-, hsegment⟩ := List.append_inj' hadded rfl
        rw [hempty (List.singleton_inj.mp hsegment).symm] at h
        cases h
      · obtain ⟨hnames, hsegment⟩ := List.append_inj' hadded rfl
        rw [← List.singleton_inj.mp hsegment] at hstands
        exact ⟨⟨hdot, hdoubleDot, no_breaks_of_stands hstands⟩, hnames⟩

/-- Only names are added as segments that stand for them. The induction
goes from the last text, since the length of the path bounds what those
before it can have added. -/
theorem isName_of_stands {names written ids : List String} (hnames : 1 < names.length)
    (hpath : ids.foldl (appendSegment special) names = names ++ written)
    (h : List.Forall₂ Stands written ids) : ∀ id ∈ ids, IsName id := by
  induction ids using List.reverseRecOn generalizing written with
  | nil => exact fun id hid => absurd hid List.not_mem_nil
  | append_singleton ids last ih =>
      have hfront := List.forall₂_take_append _ _ _ h
      have hback := List.forall₂_drop_append _ _ _ h
      obtain ⟨segment, _, hstands, hnil, hsegment⟩ := List.forall₂_cons_right_iff.mp hback
      obtain rfl := List.forall₂_nil_right_iff.mp hnil
      rw [List.foldl_concat, ← List.take_append_drop ids.length written, hsegment,
        ← List.append_assoc] at hpath
      have hlength : (ids.foldl (appendSegment special) names).length ≤ _ :=
        length_foldl_appendSegment_le names ids
      obtain ⟨hlast, hids⟩ := isName_of_appendSegment hpath hstands (by
        rw [List.length_append, hfront.length_eq]
        exact hlength)
      have hkept := length_dropSoleEmpty_le (ids.foldl (appendSegment special) names)
      rw [hids, List.length_append] at hkept
      rw [dropSoleEmpty_of_ne fun hsole => by rw [hsole, List.length_singleton] at hkept; omega]
        at hids
      intro id hid
      rcases List.mem_append.mp hid with hid | hid
      · exact ih hids hfront id hid
      · rw [List.mem_singleton.mp hid]
        exact hlast

end Adding

/-! ## Segments in the text of a URL -/

/-- A text without a given kind of character ends where the first one
stands. -/
theorem append_inj_of_head {p : Char → Bool} {s s' rest rest' : List Char}
    (hs : ∀ c ∈ s, p c = false) (hs' : ∀ c ∈ s', p c = false)
    (hrest : ∀ c ∈ rest.head?, p c = true) (hrest' : ∀ c ∈ rest'.head?, p c = true)
    (h : s ++ rest = s' ++ rest') : s = s' ∧ rest = rest' := by
  have htake : ∀ s rest : List Char, (∀ c ∈ s, p c = false) → (∀ c ∈ rest.head?, p c = true) →
      (s ++ rest).takeWhile (!p ·) = s := by
    intro s rest hs hrest
    rw [List.takeWhile_append_of_pos fun c hc => by rw [hs c hc]; rfl]
    cases rest with
    | nil => exact List.append_nil s
    | cons c rest =>
        rw [List.takeWhile_cons, hrest c rfl]
        exact List.append_nil s
  have hsame : s = s' := by rw [← htake s rest hs hrest, h, htake s' rest' hs' hrest']
  subst hsame
  exact ⟨rfl, List.append_cancel_left h⟩

theorem toList_text_segments (names : List String) :
    (Path.text (.segments names)).toList = names.flatMap fun s => '/' :: s.toList := by
  rw [Path.text, String.toList_join, List.flatMap_map]
  refine List.flatMap_congr fun s _ => ?_
  rw [String.toList_append]
  rfl

theorem endsSegment_of_mem_head? (names : List String) {rest : List Char}
    (h : ∀ c ∈ rest.head?, c = '?' ∨ c = '#') :
    ∀ c ∈ ((names.flatMap fun s => '/' :: s.toList) ++ rest).head?, endsSegment c = true := by
  cases names with
  | nil =>
      intro c hc
      rcases h c hc with rfl | rfl <;> rfl
  | cons s names =>
      intro c hc
      obtain rfl := Option.some.inj hc
      rfl

/-- The segments at the end of a path, and what follows in a query or
fragment, can be told from the text. -/
theorem written_inj_of_text {written written' : List String} {rest rest' : List Char}
    (hwritten : ∀ s ∈ written, ∀ c ∈ s.toList, endsSegment c = false)
    (hwritten' : ∀ s ∈ written', ∀ c ∈ s.toList, endsSegment c = false)
    (hrest : ∀ c ∈ rest.head?, c = '?' ∨ c = '#') (hrest' : ∀ c ∈ rest'.head?, c = '?' ∨ c = '#')
    (h : (Path.text (.segments written)).toList ++ rest =
      (Path.text (.segments written')).toList ++ rest') : written = written' ∧ rest = rest' := by
  rw [toList_text_segments, toList_text_segments] at h
  induction written generalizing written' with
  | nil =>
      cases written' with
      | nil => exact ⟨rfl, h⟩
      | cons s' written' =>
          rw [List.flatMap_nil, List.nil_append] at h
          rw [h] at hrest
          rcases hrest '/' rfl with hc | hc <;> cases hc
  | cons s written ih =>
      cases written' with
      | nil =>
          rw [List.flatMap_nil, List.nil_append] at h
          rw [← h] at hrest'
          rcases hrest' '/' rfl with hc | hc <;> cases hc
      | cons s' written' =>
          obtain ⟨hs, hwritten⟩ := List.forall_mem_cons.mp hwritten
          obtain ⟨hs', hwritten'⟩ := List.forall_mem_cons.mp hwritten'
          simp only [List.flatMap_cons, List.cons_append, List.append_assoc, List.cons.injEq,
            true_and] at h
          obtain ⟨hfirst, hothers⟩ := append_inj_of_head hs hs' (endsSegment_of_mem_head? _ hrest)
            (endsSegment_of_mem_head? _ hrest') h
          obtain ⟨hwritten, hrest⟩ := ih hwritten hwritten' hothers
          exact ⟨by rw [String.toList_inj.mp hfirst, hwritten], hrest⟩

theorem head?_query_fragment (query fragment : Option String) :
    ∀ c ∈ ((query.elim "" ("?" ++ ·)).toList ++ (fragment.elim "" ("#" ++ ·)).toList).head?,
      c = '?' ∨ c = '#' := by
  intro c hc
  cases query with
  | some q =>
      rw [Option.elim_some, String.toList_append] at hc
      exact .inl (Option.some.inj hc).symm
  | none =>
      cases fragment with
      | some f =>
          rw [Option.elim_some, String.toList_append] at hc
          exact .inr (Option.some.inj hc).symm
      | none => cases hc

/-- Among the URLs that share all but the end of the path and the query,
the text of a URL determines both. -/
theorem written_inj_of_url_text {u : Url} {front written written' : List String}
    {query query' : Option String}
    (hwritten : ∀ s ∈ written, ∀ c ∈ s.toList, endsSegment c = false)
    (hwritten' : ∀ s ∈ written', ∀ c ∈ s.toList, endsSegment c = false)
    (h : { u with path := .segments (front ++ written), query := query }.text =
      { u with path := .segments (front ++ written'), query := query' }.text) :
    written = written' ∧ query = query' := by
  have hchars := congrArg String.toList h
  simp only [text, String.toList_append, toList_text_segments, List.flatMap_append,
    List.append_assoc, List.append_cancel_left_eq] at hchars
  simp only [← toList_text_segments] at hchars
  obtain ⟨hsame, hrest⟩ := written_inj_of_text hwritten hwritten' (head?_query_fragment _ _)
    (head?_query_fragment _ _) hchars
  exact ⟨hsame, query_text_inj (String.toList_inj.mp (List.append_cancel_right hrest))⟩

end Url

end UploadHooks
