import UploadHooks.Metadata
import UploadHooks.Proofs.Entries
import UploadHooks.Proofs.Json.RoundTrip
import UploadHooks.Proofs.Text.ByteOrder

/-!
# Metadata from pairs and from text

Metadata is put together from pairs, or read from the text of a JSON
object. Both keep the last value of a name, the reader because it inserts
members as it comes by them, so a text that lists pairs is read as the
metadata made of them (`ofJson_pairsText`). The text of metadata lists its
own fields, which are in order already; reading it is therefore the
inverse of writing (`ofJson_json`).
-/

namespace UploadHooks

namespace Metadata

open Entries (mapValues IsLast)
open Json (pairsText)

theorem json_eq_pairsText (m : Metadata) : m.json = pairsText m.entries := rfl

/-! ## Reading -/

theorem flatten_strings (pairs : List (String × String)) :
    flatten (mapValues Json.Value.string pairs) = .ok pairs := by
  induction pairs with
  | nil => rfl
  | cons p pairs ih =>
      simp only [mapValues, List.map_cons] at ih ⊢
      rw [flatten, flatText?]
      simp only [ih, Except.map]

theorem ofPairs_entries (m : Metadata) : ofPairs m.entries = m := by
  cases m with
  | mk entries ascending => simp only [ofPairs, Entries.ofPairs_of_ascending ascending]

/-- Pairs that are listed in a text make the same metadata as pairs that
are put together. -/
theorem ofJson_pairsText (pairs : List (String × String)) :
    ofJson (pairsText pairs) = .ok (ofPairs pairs) := by
  rw [ofJson, Json.ofText_pairsText]
  simp only [ofValue, flatten_strings, Except.map]
  exact congrArg Except.ok (ofPairs_entries (ofPairs pairs))

theorem ofJson_json (m : Metadata) : ofJson m.json = .ok m := by
  rw [json_eq_pairsText, ofJson_pairsText, ofPairs_entries]

/-! ## Metadata in other texts -/

/-- The fields as a value, which is what metadata denotes where it stands
in a text with other things. -/
def value (m : Metadata) : Json.Value := .object (mapValues .string m.entries)

theorem denotes_jsonChars (m : Metadata) : Json.Denotes m.jsonChars m.value 1 := by
  have hpairs := Json.Denotes.pairs m.entries
  rwa [Entries.ofPairs_of_ascending m.ascending] at hpairs

theorem memberValues_strings (pairs : List (String × String)) :
    Json.memberValues (mapValues .string pairs) = mapValues Json.stringChars pairs := by
  induction pairs with
  | nil => rfl
  | cons p pairs ih =>
      simp only [mapValues, List.map_cons] at ih ⊢
      rw [Json.memberValues, Json.Value.chars, ih]

theorem text_value (m : Metadata) : m.value.text = m.json := by
  rw [value, Json.Value.text, Json.Value.chars, memberValues_strings]
  rfl

theorem ofJson_text_value (m : Metadata) : ofJson m.value.text = .ok m := by
  rw [text_value, ofJson_json]

/-! ## Order -/

/-- Fields stand in the order of the bytes of their names. -/
theorem pairwise_encode_lt (m : Metadata) :
    m.entries.Pairwise fun p q => Utf8.encode p.1 < Utf8.encode q.1 :=
  m.ascending.imp Utf8.encode_lt_iff.mpr

/-- Metadata from pairs, from a text that lists the pairs, and from its own
text are the same. It has the last value of each name and nothing else,
and it is listed and written in the order of the bytes of the names. -/
theorem pairs_and_text_agree (pairs : List (String × String)) (m : Metadata) :
    ofJson (pairsText pairs) = .ok (ofPairs pairs) ∧
    (∀ name value, (ofPairs pairs).get? name = some value ↔ IsLast pairs name value) ∧
    (∀ name value, (name, value) ∈ (ofPairs pairs).entries ↔ IsLast pairs name value) ∧
    m.entries.Pairwise (fun p q => Utf8.encode p.1 < Utf8.encode q.1) ∧
    m.json = pairsText m.entries ∧
    ofJson m.json = .ok m := by
  refine ⟨ofJson_pairsText pairs, fun name value => Entries.get?_ofPairs_iff, fun name value => ?_,
    m.pairwise_encode_lt, m.json_eq_pairsText, ofJson_json m⟩
  exact (Entries.mem_iff_get? (ofPairs pairs).ascending).trans Entries.get?_ofPairs_iff

end Metadata

end UploadHooks
