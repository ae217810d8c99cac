import UploadHooks.Metadata
import UploadHooks.Proofs.Json.OpenObject
import UploadHooks.Proofs.Results

/-!
# One member of metadata

An object whose value is open in one member, filled with two values that
have a flat text each, is read with the same fault, or as metadata that
differs in that field only (`ofJson_fill`).

Whether metadata is read at all depends on the kinds of its values and not
on their texts. `outline` forgets the texts, and the two fillings have one
outline. What metadata is read then follows from the last member of each
name.
-/

namespace UploadHooks

namespace Metadata

open Entries (mapValues IsLast)
open Json (OpenObject)

/-! ## Whether metadata is read -/

/-- The value without its flat text, if it has one. -/
def outline (v : Json.Value) : Json.Value := if (flatText? v).isSome then .string "" else v

theorem flatten_outline_error_iff {members : List (String × Json.Value)} {fault : Fault} :
    flatten (mapValues outline members) = .error fault ↔ flatten members = .error fault := by
  induction members with
  | nil => rfl
  | cons p members ih =>
      obtain ⟨field, v⟩ := p
      rw [mapValues, List.map_cons, ← mapValues, flatten, flatten]
      cases hv : flatText? v with
      | none =>
          have hsame : outline v = v := by rw [outline, hv]; rfl
          rw [hsame, hv]
      | some text =>
          have hstub : flatText? (outline v) = some "" := by rw [outline, hv]; rfl
          rw [hstub]
          simp only [map_eq_error_iff, ih]

theorem ofValue_object_error_iff {members : List (String × Json.Value)} {fault : Fault} :
    ofValue (.object members) = .error fault ↔ flatten members = .error fault := by
  rw [ofValue, map_eq_error_iff]

/-! ## What metadata is read -/

theorem flatten_eq_ok {members : List (String × Json.Value)} {pairs : List (String × String)}
    (h : flatten members = .ok pairs) : mapValues some pairs = mapValues flatText? members := by
  induction members generalizing pairs with
  | nil =>
      obtain rfl := Except.ok.inj h
      rfl
  | cons p members ih =>
      obtain ⟨field, v⟩ := p
      rw [flatten] at h
      cases hv : flatText? v with
      | none =>
          rw [hv] at h
          cases h
      | some text =>
          rw [hv] at h
          obtain ⟨rest, hrest, rfl⟩ := map_eq_ok_iff.mp h
          simp only [mapValues, List.map_cons, hv] at ih ⊢
          rw [ih hrest]

/-- A field is the flat text of the last member of its name. -/
theorem get?_of_ofValue {members : List (String × Json.Value)} {m : Metadata}
    (h : ofValue (.object (Entries.ofPairs members)) = .ok m) {field text : String} :
    m.get? field = some text ↔ ∃ v, IsLast members field v ∧ flatText? v = some text := by
  obtain ⟨pairs, hpairs, rfl⟩ := map_eq_ok_iff.mp h
  have hentries : mapValues some (Entries.ofPairs pairs) =
      mapValues flatText? (Entries.ofPairs members) := by
    rw [← Entries.ofPairs_mapValues, flatten_eq_ok hpairs, Entries.ofPairs_mapValues,
      Entries.ofPairs_of_ascending (Entries.ofPairs_ascending members)]
  have hget := congrArg (Entries.get? · field) hentries
  simp only [Entries.get?_mapValues] at hget
  calc (Entries.ofPairs pairs).get? field = some text
      ↔ ((Entries.ofPairs pairs).get? field).map some = some (some text) := by simp
    _ ↔ ∃ v, IsLast members field v ∧ flatText? v = some text := by
        rw [hget, Option.map_eq_some_iff]
        simp only [Entries.get?_ofPairs_iff]

section Fill

variable {name : String} {v v' : Json.Value} {text text' : String}

theorem ofJson_of_ofText {s : String} {v : Json.Value} (h : Json.Value.ofText s = .ok v) :
    ofJson s = ofValue v := by
  rw [ofJson, h]

/-- One metadata has the first text in the field and the other the second.
In every other field they agree. -/
structure DifferIn (name text text' : String) (m m' : Metadata) : Prop where
  left : m.get? name = some text
  right : m'.get? name = some text'
  elsewhere : ∀ field, field ≠ name → m.get? field = m'.get? field

/-- Two values with a flat text make the same fault, or metadata that
differs in their texts alone. -/
theorem ofJson_fill (o : OpenObject name) {chars chars' : List Char}
    (hstands : Json.Stands chars v 0) (hstands' : Json.Stands chars' v' 0)
    (htext : flatText? v = some text) (htext' : flatText? v' = some text') :
    (∃ fault, ofJson (o.fill chars) = .error fault ∧ ofJson (o.fill chars') = .error fault) ∨
      ∃ m m', ofJson (o.fill chars) = .ok m ∧ ofJson (o.fill chars') = .ok m' ∧
        DifferIn name text text' m m' := by
  rw [ofJson_of_ofText (o.ofText_fill hstands), ofJson_of_ofText (o.ofText_fill hstands')]
  have houtline : mapValues outline (Entries.ofPairs (o.members v)) =
      mapValues outline (Entries.ofPairs (o.members v')) := by
    rw [← Entries.ofPairs_mapValues, ← Entries.ofPairs_mapValues]
    simp [mapValues, OpenObject.members, outline, htext, htext']
  have hfaults {fault : Fault} :
      ofValue (.object (Entries.ofPairs (o.members v))) = .error fault ↔
        ofValue (.object (Entries.ofPairs (o.members v'))) = .error fault := by
    rw [ofValue_object_error_iff, ofValue_object_error_iff, ← flatten_outline_error_iff, houtline,
      flatten_outline_error_iff]
  cases hread : ofValue (.object (Entries.ofPairs (o.members v))) with
  | error fault => exact .inl ⟨fault, rfl, hfaults.mp hread⟩
  | ok m =>
      cases hread' : ofValue (.object (Entries.ofPairs (o.members v'))) with
      | error fault =>
          rw [hfaults.mpr hread'] at hread
          cases hread
      | ok m' =>
          refine .inr ⟨m, m', rfl, rfl, ?_, ?_, fun field hne => ?_⟩
          · exact (get?_of_ofValue hread).mpr ⟨v, o.isLast_members_self.mpr rfl, htext⟩
          · exact (get?_of_ofValue hread').mpr ⟨v', o.isLast_members_self.mpr rfl, htext'⟩
          · refine Option.ext fun s => ?_
            rw [get?_of_ofValue hread, get?_of_ofValue hread']
            exact exists_congr fun w => and_congr_left fun _ => o.isLast_members_of_ne hne

end Fill

end Metadata

end UploadHooks
