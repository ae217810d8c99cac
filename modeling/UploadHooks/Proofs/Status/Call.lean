import UploadHooks.Proofs.Url.Segments
import UploadHooks.Status.Call

/-!
# What a call says in its URL

A call has its arguments in two places. As parameters they can be any
text: the query of the URL is read as the parameters of the base and then
those of the call (`call_parameters_read_back`).

As segments of the path they must be names. The path of a URL carries the
ids of its call if and only if all of them are names
(`ids_carried_iff_names`), and then the text of the URL tells calls of an
operation apart. An id that is no name can make the path shorter, end it
in an empty segment, or be lost in part.
-/

namespace UploadHooks

namespace Status

open Url (IsName Stands stem appendSegment encodeSegment)

/-! ## The URL of a call -/

theorem Endpoint.isName_of_mem_segments (e : Endpoint) : ∀ s ∈ e.segments, IsName s := by
  cases e <;> decide

theorem Endpoint.map_encodeSegment_segments (special : Bool) (e : Endpoint) :
    e.segments.map (encodeSegment special) = e.segments := by
  cases e <;> cases special <;> decide

theorem Endpoint.foldl_segments (special : Bool) (names : List String) (e : Endpoint) :
    e.segments.foldl (appendSegment special) names = Url.dropSoleEmpty names ++ e.segments := by
  have hsegments : e.segments = "api" :: e.segments.tail := by cases e <;> rfl
  have hapi : encodeSegment special "api" ≠ "" := by cases special <;> decide
  have hnames := e.isName_of_mem_segments
  have hwritten := e.map_encodeSegment_segments special
  rw [hsegments] at hnames hwritten ⊢
  rw [Url.foldl_appendSegment_cons hapi hnames, hwritten]

theorem Endpoint.one_lt_length_segments (e : Endpoint) : 1 < e.segments.length := by
  cases e <;> decide

namespace Call

/-- The URL of a call without its parameters, below a base with the given
segments. -/
def pathUrl (base : Url) (names : List String) (call : Call) : Url :=
  { base with path := .segments (call.ids.foldl (appendSegment base.isSpecial)
      (stem names ++ call.endpoint.segments)) }

section Segments

variable {base : Url} {names : List String}

theorem url?_of_segments (h : base.path = .segments names) (call : Call) :
    call.url? base = some ((call.pathUrl base names).addParameters call.parameters) := by
  rw [url?, Url.extend, Url.extendPath_of_segments h, List.foldl_append, Endpoint.foldl_segments]
  rfl

theorem path_of_url? (h : base.path = .segments names) {call : Call} {url : Url}
    (hurl : call.url? base = some url) : url.path = (call.pathUrl base names).path := by
  obtain ⟨query, hquery⟩ := Url.addParameters_eq (call.pathUrl base names) call.parameters
  rw [url?_of_segments h, Option.some.injEq, hquery] at hurl
  rw [← hurl]

theorem one_lt_length_fixed (names : List String) (call : Call) :
    1 < (stem names ++ call.endpoint.segments).length := by
  have hlength := call.endpoint.one_lt_length_segments
  rw [List.length_append]
  omega

/-- Names follow the segments of the operation, one by one. -/
theorem pathUrl_of_names {call : Call} (h : ∀ id ∈ call.ids, IsName id) :
    call.pathUrl base names = { base with path := .segments (stem names ++ call.endpoint.segments ++
      call.ids.map (encodeSegment base.isSpecial)) } := by
  have hlength := one_lt_length_fixed names call
  have hsole : stem names ++ call.endpoint.segments ≠ [""] := fun hsole => by
    rw [hsole] at hlength
    exact Nat.lt_irrefl 1 hlength
  rw [pathUrl, Url.foldl_appendSegment (List.ne_nil_of_length_pos (by omega)) hsole h]

end Segments

end Call

/-! ## Parameters -/

/-- The parameters of a call are read from its URL, behind those of the
base, and the text of the URL of a created trace or of a looked up span
determines what was asked for. -/
theorem call_parameters_read_back {base : Url} (hbase : base.canBeBase = true) :
    (∀ segments pairs, ∃ url, base.extend segments pairs = some url ∧
      url.parameters = base.parameters ++ pairs ∧
      ('#' ∈ (url.query.getD "").toList ↔ '#' ∈ (base.query.getD "").toList)) ∧
    (∀ call : Call, ∃ url, call.url? base = some url ∧
      url.parameters = base.parameters ++ call.parameters) ∧
    (∀ uploadId useCase category uploadId' useCase' category',
      ((Call.createTrace uploadId useCase category).url? base).map Url.text =
        ((Call.createTrace uploadId' useCase' category').url? base).map Url.text →
      uploadId = uploadId' ∧ useCase = useCase' ∧ category = category') ∧
    (∀ uploadId stage uploadId' stage',
      ((Call.findSpan uploadId stage).url? base).map Url.text =
        ((Call.findSpan uploadId' stage').url? base).map Url.text →
      uploadId = uploadId' ∧ stage = stage') := by
  refine ⟨Url.extend_parameters hbase, fun call => ?_, ?_, ?_⟩
  · obtain ⟨url, hurl, hparameters, -⟩ :=
      Url.extend_parameters hbase (call.endpoint.segments ++ call.ids) call.parameters
    exact ⟨url, hurl, hparameters⟩
  · intro uploadId useCase category uploadId' useCase' category' h
    simpa [Call.createTrace] using Url.pairs_eq_of_text_eq hbase h
  · intro uploadId stage uploadId' stage' h
    simpa [Call.findSpan] using Url.pairs_eq_of_text_eq hbase h

/-- A base with a query, and values that are full of delimiters. -/
theorem findSpan_parameters_behind_query :
    let base : Url := ⟨"http", .authority ⟨"", "", "status", none⟩, .segments [""],
      some "key=a+b&flag", none⟩
    base.canBeBase = true ∧
      ∃ url, (Call.findSpan "a&b=c+d" "#é%26").url? base = some url ∧
        url.parameters = [("key", "a b"), ("flag", ""), ("uploadId", "a&b=c+d"),
          ("stageName", "#é%26")] := by
  intro base
  have hbase : base.canBeBase = true := rfl
  obtain ⟨url, hurl, hparameters⟩ :=
    (call_parameters_read_back hbase).2.1 (.findSpan "a&b=c+d" "#é%26")
  have hown : base.parameters = [("key", "a b"), ("flag", "")] := by decide +kernel
  refine ⟨hbase, url, hurl, ?_⟩
  rw [hparameters, hown]
  rfl

/-! ## Ids in the path -/

/-- The path of a URL carries the ids of its call: behind what the base has
and the segments of the operation there is one segment for each, in their
order, which stands for it. What the base has are its segments up to an
empty one at the end; of a path of two slashes, which is two empty
segments, that is nothing at all (`stem`). -/
def CarriesIds (base : Url) (call : Call) (url : Url) : Prop :=
  ∃ names written, base.path = .segments names ∧
    url.path = .segments (stem names ++ call.endpoint.segments ++ written) ∧
    List.Forall₂ Url.Stands written call.ids

theorem forall₂_stands {ids : List String} (h : ∀ id ∈ ids, IsName id) (special : Bool) :
    List.Forall₂ Url.Stands (ids.map (encodeSegment special)) ids := by
  rw [List.forall₂_map_left_iff, List.forall₂_same]
  exact fun id hid => (h id hid).stands special

theorem carriesIds_iff {base : Url} {names : List String} (h : base.path = .segments names)
    {call : Call} {url : Url} (hpath : url.path = (call.pathUrl base names).path) :
    CarriesIds base call url ↔ ∀ id ∈ call.ids, IsName id := by
  constructor
  · rintro ⟨names', written, h', hwritten, hstands⟩
    obtain rfl : names = names' := Url.Path.segments.inj (h.symm.trans h')
    rw [hpath] at hwritten
    exact Url.isName_of_stands (Call.one_lt_length_fixed names call)
      (Url.Path.segments.inj hwritten) hstands
  · intro hids
    rw [Call.pathUrl_of_names hids] at hpath
    exact ⟨names, _, h, hpath, forall₂_stands hids base.isSpecial⟩

/-! ## Requests -/

/-- What a request shows of the call that it was made for: method,
parameters and body as they are, and the ids of its path if and only if
they are names. -/
structure Call.ShownBy (base : Url) (call : Call) (request : Http.Request) : Prop where
  method_eq : request.method = call.endpoint.method
  parameters_eq : request.url.parameters = base.parameters ++ call.parameters
  body_eq : request.body = call.body
  carriesIds_iff : CarriesIds base call request.url ↔ ∀ id ∈ call.ids, IsName id

theorem Call.shownBy_request {base : Url} (hbase : base.canBeBase = true) {call : Call}
    {request : Http.Request} (h : call.request? base = some request) :
    call.ShownBy base request := by
  obtain ⟨names, hnames⟩ := Url.canBeBase_iff.mp hbase
  obtain ⟨url, hextend, hparameters, -⟩ :=
    Url.extend_parameters hbase (call.endpoint.segments ++ call.ids) call.parameters
  have hurl : call.url? base = some url := hextend
  rw [request?, hurl, Option.map_some, Option.some.injEq] at h
  subst h
  exact ⟨rfl, hparameters, rfl, Status.carriesIds_iff hnames (path_of_url? hnames hurl)⟩

/-- Two calls of an operation whose ids are names have different URLs,
down to the text. -/
theorem Call.ids_and_parameters_of_url_text {base : Url} (hbase : base.canBeBase = true)
    {call call' : Call} (hendpoint : call.endpoint = call'.endpoint)
    (hids : ∀ id ∈ call.ids, IsName id) (hids' : ∀ id ∈ call'.ids, IsName id)
    (h : (call.url? base).map Url.text = (call'.url? base).map Url.text) :
    call.ids = call'.ids ∧ call.parameters = call'.parameters := by
  obtain ⟨names, hnames⟩ := Url.canBeBase_iff.mp hbase
  have hwritten : ∀ ids : List String, ∀ s ∈ ids.map (encodeSegment base.isSpecial),
      ∀ c ∈ s.toList, Url.endsSegment c = false := by
    intro ids s hs
    obtain ⟨id, -, rfl⟩ := List.mem_map.mp hs
    exact Url.delimited_encodeSegment base.isSpecial id
  obtain ⟨query, hquery⟩ := Url.addParameters_eq (call.pathUrl base names) call.parameters
  obtain ⟨query', hquery'⟩ := Url.addParameters_eq (call'.pathUrl base names) call'.parameters
  rw [url?_of_segments hnames, url?_of_segments hnames, Option.map_some, Option.map_some,
    Option.some.injEq, hquery, hquery', pathUrl_of_names hids, pathUrl_of_names hids',
    ← hendpoint] at h
  obtain ⟨hsame, hqueries⟩ :=
    Url.written_inj_of_url_text (u := base) (hwritten call.ids) (hwritten call'.ids) h
  have hstands := forall₂_stands hids base.isSpecial
  rw [hsame] at hstands
  refine ⟨List.right_unique_forall₂' Url.stands_rightUnique hstands
    (forall₂_stands hids' base.isSpecial), ?_⟩
  exact Url.addParameters_inj (u := call.pathUrl base names) (v := call'.pathUrl base names) rfl
    (by rw [hquery, hquery', hqueries])

/-- Ids are not free to be any text: the path carries them if and only if
they are names. Those of an operation that are cannot be taken for each
other. -/
theorem ids_carried_iff_names {base : Url} (hbase : base.canBeBase = true) :
    (∀ call : Call, ∃ url, call.url? base = some url ∧
      (CarriesIds base call url ↔ ∀ id ∈ call.ids, IsName id)) ∧
    (∀ call call' : Call, call.endpoint = call'.endpoint → (∀ id ∈ call.ids, IsName id) →
      (∀ id ∈ call'.ids, IsName id) →
      (call.url? base).map Url.text = (call'.url? base).map Url.text →
      call.ids = call'.ids ∧ call.parameters = call'.parameters) := by
  refine ⟨fun call => ?_, fun call call' => Call.ids_and_parameters_of_url_text hbase⟩
  obtain ⟨names, hnames⟩ := Url.canBeBase_iff.mp hbase
  have hurl := call.url?_of_segments hnames
  exact ⟨_, hurl, carriesIds_iff hnames (Call.path_of_url? hnames hurl)⟩

/-- Whatever delimiters they have in them, these are names. -/
theorem stopSpan_carries_ids :
    let base : Url := ⟨"http", .authority ⟨"", "", "status", none⟩, .segments ["ps", ""],
      none, none⟩
    let call := Call.stopSpan "../x y" "a%2Fb?c#d"
    let other := Call.stopSpan "../x y/a%2Fb" "?c#d"
    base.canBeBase = true ∧ (∀ id ∈ call.ids, IsName id) ∧ (∀ id ∈ other.ids, IsName id) ∧
      (∃ url, call.url? base = some url ∧ CarriesIds base call url) ∧
      (call.url? base).map Url.text ≠ (other.url? base).map Url.text := by
  intro base call other
  have hbase : base.canBeBase = true := rfl
  have hids : ∀ id ∈ call.ids, IsName id := by decide
  have hothers : ∀ id ∈ other.ids, IsName id := by decide
  have hne : call.ids ≠ other.ids := by decide
  obtain ⟨hcarried, hdistinct⟩ := ids_carried_iff_names hbase
  obtain ⟨url, hurl, hiff⟩ := hcarried call
  exact ⟨hbase, hids, hothers, ⟨url, hurl, hiff.mpr hids⟩,
    fun h => hne (hdistinct call other rfl hids hothers h).1⟩

/-- An id around whose tab there are two dots takes the last segment of
the operation away, and a tab alone makes an id look like another. -/
theorem tab_in_id_changes_path :
    let base : Url := ⟨"http", .authority ⟨"", "", "status", none⟩, .segments [""], none, none⟩
    (Call.findTrace ".\t.").url? base = some { base with path := .segments ["api", "trace", ""] } ∧
      (Call.findTrace "a\tb").url? base = (Call.findTrace "ab").url? base ∧
      ¬ ∀ call : Call, ∃ url, call.url? base = some url ∧ CarriesIds base call url := by
  intro base
  have hshort : (Call.findTrace ".\t.").url? base =
      some { base with path := .segments ["api", "trace", ""] } := by decide
  refine ⟨hshort, by decide, fun h => ?_⟩
  obtain ⟨url, hurl, names, written, hnames, hpath, -⟩ := h (.findTrace ".\t.")
  obtain rfl := Option.some.inj (hshort.symm.trans hurl)
  obtain rfl : [""] = names := Url.Path.segments.inj hnames
  exact absurd (Url.Path.segments.inj hpath) (by simp [stem, Url.dropSoleEmpty,
    Url.dropTrailingEmpty, Call.findTrace, Endpoint.segments])

end Status

end UploadHooks
