import UploadHooks.Proofs.Metadata.Member
import UploadHooks.Proofs.Text.ByteOrder

/-!
# What metadata a text is

Of the members of an object the last one of each name counts, and which of
them is refused depends on their names alone: it is the one whose name
comes first in the order of the bytes (`LeastUnsupported`). So the order of
the members in the text plays no part, except between members of one name,
and a member that a later one overwrites might as well be left out.

`Flattens` says of metadata what it has to be, without the reader. The text
of a whole number is the number's own, as long as it fits 64 bits.
-/

namespace UploadHooks

namespace Metadata

open Entries (IsLast)
open Json (OpenObject kind_eq_object_iff ofText_object_iff)

/-! ## Flat values -/

/-- Strings, numbers and booleans. -/
def IsFlat (v : Json.Value) : Prop := v.kind = .string ∨ v.kind = .number ∨ v.kind = .boolean

/-- A string as it is, and the JSON text of anything else that is flat. -/
inductive HasFlatText : Json.Value → String → Prop
  | string (text : String) : HasFlatText (.string text) text
  | number (n : Json.Number) : HasFlatText (.number n) n.text
  | yes : HasFlatText (.bool true) "true"
  | no : HasFlatText (.bool false) "false"

theorem flatText?_eq_some_iff {v : Json.Value} {text : String} :
    flatText? v = some text ↔ HasFlatText v text := by
  constructor
  · intro h
    cases v with
    | string s =>
        obtain rfl := Option.some.inj h
        exact .string s
    | number n =>
        obtain rfl := Option.some.inj h
        exact .number n
    | bool b =>
        obtain rfl := Option.some.inj h
        cases b
        · exact .no
        · exact .yes
    | null | array | object => cases h
  · rintro (_ | _ | _ | _) <;> rfl

/-- The value is of a kind without a flat text. -/
def unsupported (v : Json.Value) : Bool := (flatText? v).isNone

theorem unsupported_eq_false_iff {v : Json.Value} : unsupported v = false ↔ IsFlat v := by
  cases v <;> simp [unsupported, flatText?, IsFlat, Json.Value.kind]

theorem unsupported_eq_true_iff {v : Json.Value} :
    unsupported v = true ↔ v.kind = .null ∨ v.kind = .array ∨ v.kind = .object := by
  cases v <;> simp [unsupported, flatText?, Json.Value.kind]

/-! ## Members in order -/

theorem flatten_eq_error_iff {members : List (String × Json.Value)} {fault : Fault} :
    flatten members = .error fault ↔
      ∃ p, members.find? (fun q => unsupported q.2) = some p ∧
        fault = .unsupportedValue p.1 p.2.kind := by
  induction members with
  | nil => simp [flatten]
  | cons p members ih =>
      obtain ⟨field, v⟩ := p
      rw [flatten, List.find?_cons]
      cases hv : flatText? v with
      | none => simp [unsupported, hv, eq_comm]
      | some text =>
          have hflat : unsupported v = false := by rw [unsupported, hv]; rfl
          rw [hflat]
          simp only [map_eq_error_iff, ih]

theorem exists_flatten_iff {members : List (String × Json.Value)} :
    (∃ pairs, flatten members = .ok pairs) ↔ ∀ p ∈ members, IsFlat p.2 := by
  have hnone : (∀ p ∈ members, IsFlat p.2) ↔
      members.find? (fun q => unsupported q.2) = none := by
    simp [List.find?_eq_none, unsupported_eq_false_iff]
  rw [hnone]
  cases hflatten : flatten members with
  | error fault =>
      obtain ⟨p, hp, -⟩ := flatten_eq_error_iff.mp hflatten
      simp [hp]
  | ok pairs =>
      refine iff_of_true ⟨pairs, rfl⟩ (Option.eq_none_iff_forall_ne_some.mpr fun p hp => ?_)
      rw [flatten_eq_error_iff.mpr ⟨p, hp, rfl⟩] at hflatten
      cases hflatten

/-! ## Last members -/

section Last

variable {members : List (String × Json.Value)}

/-- The metadata is that of the last members. -/
structure Flattens (members : List (String × Json.Value)) (m : Metadata) : Prop where
  flat : ∀ name v, IsLast members name v → IsFlat v
  fields : ∀ name text, m.get? name = some text ↔ ∃ v, IsLast members name v ∧ HasFlatText v text

/-- The last member of that name is of that kind, which is not flat, and no
name before it has such a value. -/
structure LeastUnsupported (members : List (String × Json.Value)) (name : String)
    (kind : Json.Kind) : Prop where
  value : ∃ v, IsLast members name v ∧ v.kind = kind
  refused : kind = .null ∨ kind = .array ∨ kind = .object
  least : ∀ earlier v, IsLast members earlier v → Utf8.encode earlier < Utf8.encode name → IsFlat v

/-- Metadata with the same fields is the same. -/
theorem eq_of_get? {m m' : Metadata}
    (h : ∀ name text, m.get? name = some text ↔ m'.get? name = some text) : m = m' := by
  have hentries := m.ascending.ext m'.ascending h
  cases m
  cases m'
  cases hentries
  rfl

theorem exists_ofValue_iff :
    (∃ m, ofValue (.object (Entries.ofPairs members)) = .ok m) ↔
      ∀ name v, IsLast members name v → IsFlat v := by
  have hmembers : (∀ name v, IsLast members name v → IsFlat v) ↔
      ∀ p ∈ Entries.ofPairs members, IsFlat p.2 := by
    simp only [Prod.forall, Entries.mem_ofPairs_iff]
  rw [hmembers, ← exists_flatten_iff]
  simp only [ofValue, map_eq_ok_iff]
  constructor
  · rintro ⟨m, pairs, h, -⟩
    exact ⟨pairs, h⟩
  · rintro ⟨pairs, h⟩
    exact ⟨_, pairs, h, rfl⟩

theorem ofValue_eq_ok_iff {m : Metadata} :
    ofValue (.object (Entries.ofPairs members)) = .ok m ↔ Flattens members m := by
  have hfields {m' : Metadata} (h : ofValue (.object (Entries.ofPairs members)) = .ok m')
      (name text : String) :
      m'.get? name = some text ↔ ∃ v, IsLast members name v ∧ HasFlatText v text := by
    simp only [get?_of_ofValue h, flatText?_eq_some_iff]
  constructor
  · intro h
    exact ⟨exists_ofValue_iff.mp ⟨m, h⟩, hfields h⟩
  · rintro ⟨hflat, hm⟩
    obtain ⟨m', hm'⟩ := exists_ofValue_iff.mpr hflat
    rw [hm', eq_of_get? fun name text => (hm name text).trans (hfields hm' name text).symm]

theorem ofValue_eq_error_iff {name : String} {kind : Json.Kind} :
    ofValue (.object (Entries.ofPairs members)) = .error (.unsupportedValue name kind) ↔
      LeastUnsupported members name kind := by
  rw [ofValue_object_error_iff, flatten_eq_error_iff]
  simp only [(Entries.ofPairs_ascending members).find?_eq_some_iff, unsupported_eq_true_iff,
    unsupported_eq_false_iff, Fault.unsupportedValue.injEq]
  constructor
  · rintro ⟨⟨_, v⟩, ⟨hv, hkind, hleast⟩, rfl, rfl⟩
    refine ⟨⟨v, Entries.mem_ofPairs_iff.mp hv, rfl⟩, hkind, fun earlier w hw hlt => ?_⟩
    exact hleast (earlier, w) (Entries.mem_ofPairs_iff.mpr hw) (Utf8.encode_lt_iff.mp hlt)
  · rintro ⟨⟨v, hv, rfl⟩, hkind, hleast⟩
    refine ⟨(name, v), ⟨Entries.mem_ofPairs_iff.mpr hv, hkind, fun q hq hlt => ?_⟩, rfl, rfl⟩
    exact hleast q.1 q.2 (Entries.mem_ofPairs_iff.mp hq) (Utf8.encode_lt_iff.mpr hlt)

end Last

/-! ## Texts -/

section Text

variable {s : String} {members : List (String × Json.Value)}

theorem ofJson_of_lists (h : Json.Lists s members) :
    ofJson s = ofValue (.object (Entries.ofPairs members)) :=
  ofJson_of_ofText h.ofText

/-- An object is refused for one of its members only. -/
theorem ofValue_object_error {entries : List (String × Json.Value)} {fault : Fault}
    (h : ofValue (.object entries) = .error fault) :
    ∃ name kind, fault = .unsupportedValue name kind := by
  obtain ⟨p, -, rfl⟩ := flatten_eq_error_iff.mp (ofValue_object_error_iff.mp h)
  exact ⟨p.1, p.2.kind, rfl⟩

theorem ofValue_of_kind_ne {v : Json.Value} (h : v.kind ≠ .object) :
    ofValue v = .error (.notAnObject v.kind) := by
  cases v with
  | object => exact absurd rfl h
  | null | bool | number | string | array => rfl

theorem ofJson_malformed_iff {e : Json.SyntaxError} :
    ofJson s = .error (.malformed e) ↔ Json.Value.ofText s = .error e := by
  cases htext : Json.Value.ofText s with
  | error e' => simp [ofJson, htext]
  | ok v =>
      rw [ofJson_of_ofText htext]
      refine iff_of_false (fun h => ?_) (by simp)
      by_cases hkind : v.kind = .object
      · obtain ⟨entries, rfl⟩ := kind_eq_object_iff.mp hkind
        obtain ⟨_, _, heq⟩ := ofValue_object_error h
        cases heq
      · rw [ofValue_of_kind_ne hkind] at h
        cases h

theorem ofJson_notAnObject_iff {kind : Json.Kind} :
    ofJson s = .error (.notAnObject kind) ↔
      kind ≠ .object ∧ ∃ v, Json.Value.ofText s = .ok v ∧ v.kind = kind := by
  cases htext : Json.Value.ofText s with
  | error e => simp [ofJson, htext]
  | ok v =>
      rw [ofJson_of_ofText htext]
      simp only [Except.ok.injEq, exists_eq_left']
      by_cases hkind : v.kind = .object
      · obtain ⟨entries, rfl⟩ := kind_eq_object_iff.mp hkind
        constructor
        · intro h
          obtain ⟨_, _, heq⟩ := ofValue_object_error h
          cases heq
        · rintro ⟨hne, rfl⟩
          exact absurd hkind hne
      · rw [ofValue_of_kind_ne hkind, Except.error.injEq, Fault.notAnObject.injEq]
        exact ⟨fun heq => ⟨heq ▸ hkind, heq⟩, And.right⟩

/-- A whole number of 64 bits in a member is the text of that field. -/
theorem get?_of_isInteger {name : String} (o : OpenObject name) {literal : List Char} {n : ℤ}
    {m : Metadata} (h : Json.IsInteger literal n) (hleast : -2 ^ 63 ≤ n) (hlimit : n < 2 ^ 64)
    (hzero : literal ≠ ['-', '0']) (hread : ofJson (o.fill literal) = .ok m) :
    m.get? name = some (String.ofList literal) := by
  rw [ofJson_of_ofText (o.ofText_fill (h.stands hleast hlimit hzero))] at hread
  refine (get?_of_ofValue hread).mpr ⟨_, o.isLast_members_self.mpr rfl, ?_⟩
  rw [flatText?, Json.Number.text, h.chars hzero]

end Text

/-- What a text is as metadata. It is malformed if it is not JSON, and not
an object if it is another value. In an object the last member of each name
counts: it is metadata if all of those are flat, and refused for the least
name with a value that is not. So nothing changes if members of different
names are put in another order, or if a member is left out that a later one
overwrites. A whole number of 64 bits that is not a negative zero is its
own text. -/
theorem ofJson_decided_by_last_members (s : String) :
    (∀ e, ofJson s = .error (.malformed e) ↔ Json.Value.ofText s = .error e) ∧
    (∀ kind, ofJson s = .error (.notAnObject kind) ↔
      kind ≠ .object ∧ ∃ v, Json.Value.ofText s = .ok v ∧ v.kind = kind) ∧
    ((∃ v, Json.Value.ofText s = .ok v ∧ v.kind = .object) ↔ ∃ members, Json.Lists s members) ∧
    (∀ members, Json.Lists s members →
      ((∃ m, ofJson s = .ok m) ↔ ∀ name v, IsLast members name v → IsFlat v) ∧
      (∀ m, ofJson s = .ok m ↔ Flattens members m) ∧
      (∀ name kind, ofJson s = .error (.unsupportedValue name kind) ↔
        LeastUnsupported members name kind) ∧
      (∀ s' members', Json.Lists s' members' → members.Perm members' →
        (members.map Prod.fst).Nodup → ofJson s' = ofJson s) ∧
      ∀ s' before p after q, Json.Lists s' (before ++ after) → members = before ++ p :: after →
        q ∈ after → q.1 = p.1 → ofJson s' = ofJson s) ∧
    ∀ name (o : OpenObject name) literal n m, Json.IsInteger literal n → -2 ^ 63 ≤ n →
      n < 2 ^ 64 → literal ≠ ['-', '0'] → s = o.fill literal → ofJson s = .ok m →
      m.get? name = some (String.ofList literal) := by
  refine ⟨fun e => ofJson_malformed_iff, fun kind => ofJson_notAnObject_iff, ofText_object_iff,
    fun members hlists => ⟨?success, fun m => ?fields, fun name kind => ?refused, ?order, ?left⟩,
    ?integers⟩
  case success => rw [ofJson_of_lists hlists, exists_ofValue_iff]
  case fields => rw [ofJson_of_lists hlists, ofValue_eq_ok_iff]
  case refused => rw [ofJson_of_lists hlists, ofValue_eq_error_iff]
  case order =>
    intro s' members' hlists' hperm hnodup
    rw [ofJson_of_lists hlists', ofJson_of_lists hlists, Entries.ofPairs_perm hperm hnodup]
  case left =>
    rintro s' before p after q hlists' rfl hq hname
    have hsame : Entries.ofPairs (before ++ after) = Entries.ofPairs (before ++ p :: after) :=
      Entries.ofPairs_eq_iff.mpr fun name v => (Entries.isLast_without (.inr ⟨q, hq, hname⟩)).symm
    rw [ofJson_of_lists hlists', ofJson_of_lists hlists, hsame]
  case integers =>
    rintro name o literal n m hinteger hleast hlimit hzero rfl hread
    exact get?_of_isInteger o hinteger hleast hlimit hzero hread

/-- The object under `a` is overwritten, and `b` comes before `c`. -/
example : ofJson "\x7b\"c\":[],\"b\":null,\"a\":\x7b\x7d,\"a\":-7\x7d" =
    .error (.unsupportedValue "b" .null) := by
  decide +kernel

end Metadata

end UploadHooks
