import UploadHooks.Proofs.Url.Form
import UploadHooks.Url.Extend

/-!
# The parameters of a URL

What a reader finds in the query of a URL (`parameters`), and that
extending a base adds to it and takes nothing away.

Only the query is changed by that (`addParameters_eq`), so two extensions
of a base by the same segments can be told apart by their texts as soon as
they can be by their queries (`query_eq_of_text_eq`).
-/

namespace UploadHooks

namespace Url

/-- The parameters in the query. A URL without a query has none. -/
def parameters (u : Url) : List (String × String) := Form.decode (Utf8.encode (u.query.getD ""))

theorem parameters_addParameters (u : Url) (pairs : List (String × String)) :
    (u.addParameters pairs).parameters = u.parameters ++ pairs := by
  rw [addParameters]
  split
  · next h => rw [List.isEmpty_iff.mp h, List.append_nil]
  · rw [parameters, Option.getD_some, Utf8.encode, String.toList_ofList, Form.decode_append]
    rfl

/-- A query that ends where it should still does so. -/
theorem mem_query_addParameters (u : Url) (pairs : List (String × String)) :
    '#' ∈ ((u.addParameters pairs).query.getD "").toList ↔ '#' ∈ (u.query.getD "").toList := by
  rw [addParameters]
  split
  · rfl
  · rw [Option.getD_some, String.toList_ofList, Form.mem_append_numberSign]

/-- The query does not lose track of what was added to it. -/
theorem addParameters_inj {u v : Url} (hquery : u.query = v.query)
    {pairs pairs' : List (String × String)}
    (h : (u.addParameters pairs).query = (v.addParameters pairs').query) : pairs = pairs' := by
  have hsame : (u.addParameters pairs).parameters = (v.addParameters pairs').parameters := by
    rw [parameters, h, parameters]
  rw [parameters_addParameters, parameters_addParameters, parameters, parameters, hquery] at hsame
  exact List.append_cancel_left hsame

theorem addParameters_eq (u : Url) (pairs : List (String × String)) :
    ∃ query, u.addParameters pairs = { u with query := query } := by
  rw [addParameters]
  split
  · exact ⟨u.query, rfl⟩
  · exact ⟨_, rfl⟩

/-! ## Extending a base -/

theorem extendPath_of_segments {base : Url} {names : List String} (h : base.path = .segments names)
    (segments : List String) : base.extendPath segments = some { base with
      path := .segments
        (segments.foldl (appendSegment base.isSpecial) (dropTrailingEmpty names)) } := by
  simp only [extendPath, h]

theorem canBeBase_iff {u : Url} : u.canBeBase = true ↔ ∃ names, u.path = .segments names := by
  rw [canBeBase]
  cases u.path <;> simp

/-- The query of a base is not touched by what is done to its path. -/
theorem extend_eq {base : Url} (hbase : base.canBeBase = true) (segments : List String) :
    ∃ u : Url, u.query = base.query ∧
      ∀ pairs, base.extend segments pairs = some (u.addParameters pairs) := by
  obtain ⟨names, h⟩ := canBeBase_iff.mp hbase
  have hpath := extendPath_of_segments h segments
  refine ⟨_, ?_, fun pairs => congrArg (Option.map (addParameters · pairs)) hpath⟩
  rfl

/-- The added parameters are read behind those of the base. -/
theorem extend_parameters {base : Url} (hbase : base.canBeBase = true) (segments : List String)
    (pairs : List (String × String)) : ∃ url, base.extend segments pairs = some url ∧
      url.parameters = base.parameters ++ pairs ∧
      ('#' ∈ (url.query.getD "").toList ↔ '#' ∈ (base.query.getD "").toList) := by
  obtain ⟨u, hquery, hextend⟩ := extend_eq hbase segments
  refine ⟨_, hextend pairs, ?_, ?_⟩
  · rw [parameters_addParameters, parameters, parameters, hquery]
  · rw [mem_query_addParameters, hquery]

/-! ## Telling the query from the text -/

theorem query_text_inj {q q' : Option String}
    (h : q.elim "" ("?" ++ ·) = q'.elim "" ("?" ++ ·)) : q = q' := by
  have hne : ∀ s : String, "?" ++ s ≠ "" := fun s hs => by
    have hchars := congrArg String.toList hs
    rw [String.toList_append] at hchars
    cases hchars
  match q, q' with
  | none, none => rfl
  | some s, none => exact absurd h (hne s)
  | none, some s => exact absurd h.symm (hne s)
  | some s, some s' => exact congrArg some ((String.append_right_inj "?").mp h)

theorem query_eq_of_text_eq {u : Url} {query query' : Option String}
    (h : { u with query := query }.text = { u with query := query' }.text) : query = query' :=
  query_text_inj ((String.append_right_inj _).mp ((String.append_left_inj _).mp h))

/-- Extensions by the same segments have the same text only with the same
parameters. -/
theorem pairs_eq_of_text_eq {base : Url} (hbase : base.canBeBase = true) {segments : List String}
    {pairs pairs' : List (String × String)}
    (h : (base.extend segments pairs).map text = (base.extend segments pairs').map text) :
    pairs = pairs' := by
  obtain ⟨u, -, hextend⟩ := extend_eq hbase segments
  obtain ⟨query, hu⟩ := addParameters_eq u pairs
  obtain ⟨query', hu'⟩ := addParameters_eq u pairs'
  rw [hextend, hextend, hu, hu'] at h
  have hquery : query = query' := query_eq_of_text_eq (Option.some.inj h)
  exact addParameters_inj rfl (by rw [hu, hu', hquery])

end Url

end UploadHooks
