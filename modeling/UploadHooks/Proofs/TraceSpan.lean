import UploadHooks.Proofs.Json.OpenObject
import UploadHooks.Proofs.Status.Exchange

/-!
# Which ids a body has

A body is usable if it is an object, and if the last member of each of the
two names is a text or a number; nothing else of it counts. `IsOf` says this
of the members as they are listed, and `Unusable` names what may be wrong
with a body that has no pair of ids. A body is one or the other.

A text is taken as it is and a whole number of 64 bits as it is written
(`Written`), so two such ids are taken for one only if they have the same
characters.
-/

namespace UploadHooks

namespace TraceSpan

open Json (Value Lists OpenObject)
open Entries (IsLast)

/-! ## Ids -/

/-- A text is its own id, and the id of a number is the text of the number. -/
inductive IsId : Value → String → Prop
  | string (s : String) : IsId (.string s) s
  | number (n : Json.Number) : IsId (.number n) n.text

def idNames : List String := ["trace_id", "span_id"]

/-- The ids of a pair with the names they go by. -/
def ids (span : TraceSpan) : List (String × String) :=
  [("trace_id", span.traceId), ("span_id", span.spanId)]

/-- The last members of the two names are the ids. -/
def IsOf (span : TraceSpan) (members : List (String × Value)) : Prop :=
  ∀ p ∈ span.ids, ∃ v, IsLast members p.1 v ∧ IsId v p.2

/-- Why a body has no pair of ids. -/
inductive Unusable (body : String) : Prop
  | malformed {e : Json.SyntaxError} : Value.ofText body = .error e → Unusable body
  | notAnObject {v : Value} : Value.ofText body = .ok v → v.kind ≠ .object → Unusable body
  | absent {members : List (String × Value)} {name : String} : Lists body members →
      name ∈ idNames → (∀ p ∈ members, p.1 ≠ name) → Unusable body
  | noId {members : List (String × Value)} {name : String} {v : Value} : Lists body members →
      name ∈ idNames → IsLast members name v →
      v.kind = .null ∨ v.kind = .boolean ∨ v.kind = .array ∨ v.kind = .object → Unusable body

/-- The JSON text of an id, and the characters of the id itself: a string,
or a whole number of 64 bits that is not a negative zero. -/
inductive Written : List Char → String → Prop
  | string {quoted : List Char} {content : String} : Json.EndsString quoted content →
      Written ('"' :: quoted) content
  | integer {literal : List Char} {n : ℤ} : Json.IsInteger literal n → -2 ^ 63 ≤ n → n < 2 ^ 64 →
      literal ≠ ['-', '0'] → Written literal (String.ofList literal)

section Ids

variable {v : Value} {id : String}

theorem idText?_eq_some_iff : idText? v = some id ↔ IsId v id := by
  constructor
  · intro h
    cases v with
    | string s =>
        obtain rfl := Option.some.inj h
        exact .string s
    | number n =>
        obtain rfl := Option.some.inj h
        exact .number n
    | null | bool | array | object => cases h
  · rintro (_ | _) <;> rfl

theorem IsId.unique {id' : String} (h : IsId v id) (h' : IsId v id') : id = id' :=
  Option.some.inj ((idText?_eq_some_iff.mpr h).symm.trans (idText?_eq_some_iff.mpr h'))

theorem exists_isId_iff : (∃ id, IsId v id) ↔ v.kind = .string ∨ v.kind = .number := by
  simp only [← idText?_eq_some_iff]
  cases v <;> simp [idText?, Value.kind]

theorem not_exists_isId_iff : (¬ ∃ id, IsId v id) ↔
    v.kind = .null ∨ v.kind = .boolean ∨ v.kind = .array ∨ v.kind = .object := by
  rw [exists_isId_iff]
  cases v <;> simp [Value.kind]

theorem Written.exists_stands {text : List Char} (h : Written text id) :
    ∃ v, Json.Stands text v 0 ∧ IsId v id := by
  cases h with
  | string hquoted => exact ⟨_, hquoted.denotes.stands, .string _⟩
  | integer hinteger hleast hlimit hzero =>
      refine ⟨_, hinteger.stands hleast hlimit hzero, ?_⟩
      have hid := IsId.number (.integer ‹ℤ›)
      rwa [Json.Number.text, hinteger.chars hzero] at hid

end Ids

/-! ## Bodies -/

section Bodies

variable {body : String} {members : List (String × Value)} {span : TraceSpan}

theorem idMember?_eq_some_iff {name id : String} :
    idMember? (.object (Entries.ofPairs members)) name = some id ↔
      ∃ v, IsLast members name v ∧ IsId v id := by
  simp only [idMember?, Value.member?, Option.bind_eq_some_iff, Entries.get?_ofPairs_iff,
    idText?_eq_some_iff]

theorem isOf_iff : span.IsOf members ↔
    (∃ v, IsLast members "trace_id" v ∧ IsId v span.traceId) ∧
      ∃ v, IsLast members "span_id" v ∧ IsId v span.spanId := by
  simp only [IsOf, ids, List.forall_mem_cons, List.not_mem_nil, false_implies, implies_true,
    and_true]

theorem ofBody?_of_ofText (h : Value.ofText body = .ok (.object (Entries.ofPairs members))) :
    ofBody? body = some span ↔ span.IsOf members := by
  rw [isOf_iff, ← idMember?_eq_some_iff, ← idMember?_eq_some_iff, ofBody?, h]
  obtain ⟨traceId, spanId⟩ := span
  simp only
  cases idMember? (.object (Entries.ofPairs members)) "trace_id" <;>
    cases idMember? (.object (Entries.ofPairs members)) "span_id" <;> simp

/-- There is a pair of ids if there is an id under each name. -/
theorem exists_isOf_iff : (∃ span : TraceSpan, span.IsOf members) ↔
    ∀ name ∈ idNames, ∃ v, IsLast members name v ∧ (v.kind = .string ∨ v.kind = .number) := by
  simp only [← exists_isId_iff, idNames, List.forall_mem_cons, List.not_mem_nil, false_implies,
    implies_true, and_true]
  constructor
  · rintro ⟨span, h⟩
    obtain ⟨⟨v, hv, hid⟩, w, hw, hid'⟩ := isOf_iff.mp h
    exact ⟨⟨v, hv, _, hid⟩, w, hw, _, hid'⟩
  · rintro ⟨⟨v, hv, traceId, hid⟩, w, hw, spanId, hid'⟩
    exact ⟨⟨traceId, spanId⟩, isOf_iff.mpr ⟨⟨v, hv, hid⟩, w, hw, hid'⟩⟩

theorem ofBody?_of_lists (h : Lists body members) : ofBody? body = some span ↔ span.IsOf members :=
  ofBody?_of_ofText h.ofText

theorem ofBody?_of_kind_ne {v : Value} (h : Value.ofText body = .ok v) (hkind : v.kind ≠ .object) :
    ofBody? body = none := by
  have hnone : ∀ name, idMember? v name = none := by
    intro name
    cases v with
    | object => exact absurd rfl hkind
    | null | bool | number | string | array => rfl
  rw [ofBody?, h]
  simp only [hnone]

theorem ofBody?_eq_some_iff :
    ofBody? body = some span ↔ ∃ members, Lists body members ∧ span.IsOf members := by
  constructor
  · intro h
    cases htext : Value.ofText body with
    | error e => simp [ofBody?, htext] at h
    | ok v =>
        by_cases hkind : v.kind = .object
        · obtain ⟨members, hlists⟩ := Json.ofText_object_iff.mp ⟨v, htext, hkind⟩
          exact ⟨members, hlists, (ofBody?_of_lists hlists).mp h⟩
        · rw [ofBody?_of_kind_ne htext hkind] at h
          cases h
  · rintro ⟨members, hlists, h⟩
    exact (ofBody?_of_lists hlists).mpr h

/-- An object is refused for one of the two names. -/
theorem ofBody?_eq_none_of_lists (h : Lists body members) : ofBody? body = none ↔
    ∃ name ∈ idNames, ∀ v, IsLast members name v → ¬ ∃ id, IsId v id := by
  have hnone : ofBody? body = none ↔ ¬ ∃ span : TraceSpan, span.IsOf members := by
    rw [Option.eq_none_iff_forall_ne_some, not_exists]
    exact forall_congr' fun span => not_congr (ofBody?_of_lists h)
  rw [hnone, exists_isOf_iff]
  simp only [← exists_isId_iff, not_forall, not_exists, not_and, exists_prop]

theorem ofBody?_eq_none_iff : ofBody? body = none ↔ Unusable body := by
  constructor
  · intro h
    cases htext : Value.ofText body with
    | error e => exact .malformed htext
    | ok v =>
        by_cases hkind : v.kind = .object
        · obtain ⟨members, hlists⟩ := Json.ofText_object_iff.mp ⟨v, htext, hkind⟩
          obtain ⟨name, hname, hnone⟩ := (ofBody?_eq_none_of_lists hlists).mp h
          by_cases hlast : ∃ w, IsLast members name w
          · obtain ⟨w, hw⟩ := hlast
            exact .noId hlists hname hw (not_exists_isId_iff.mp (hnone w hw))
          · rw [Entries.exists_isLast_iff] at hlast
            exact .absent hlists hname fun p hp hp' => hlast ⟨p, hp, hp'⟩
        · exact .notAnObject htext hkind
  · rintro (htext | ⟨htext, hkind⟩ | ⟨hlists, hname, habsent⟩ | ⟨hlists, hname, hlast, hkind⟩)
    · rw [ofBody?, htext]
    · exact ofBody?_of_kind_ne htext hkind
    · refine (ofBody?_eq_none_of_lists hlists).mpr ⟨_, hname, fun v hv => ?_⟩
      obtain ⟨p, hp, hp'⟩ := Entries.exists_isLast_iff.mp ⟨v, hv⟩
      exact absurd hp' (habsent p hp)
    · refine (ofBody?_eq_none_of_lists hlists).mpr ⟨_, hname, fun v hv => ?_⟩
      obtain rfl := Entries.IsLast.unique hlast hv
      exact not_exists_isId_iff.mpr hkind

/-- Nothing but the last members of the two names counts. -/
theorem isOf_congr {members' : List (String × Value)}
    (h : ∀ name ∈ idNames, ∀ v, IsLast members name v ↔ IsLast members' name v) :
    span.IsOf members ↔ span.IsOf members' := by
  rw [isOf_iff, isOf_iff]
  simp only [h "trace_id" (by decide), h "span_id" (by decide)]

theorem exists_mem_ids {name : String} (h : name ∈ idNames) (span : TraceSpan) :
    ∃ id, (name, id) ∈ span.ids := by
  simp only [idNames, List.mem_cons, List.not_mem_nil, or_false] at h
  rcases h with rfl | rfl
  · exact ⟨_, List.mem_cons_self⟩
  · exact ⟨_, List.mem_cons_of_mem _ List.mem_cons_self⟩

theorem id_unique {name id id' : String} (h : (name, id) ∈ span.ids) (h' : (name, id') ∈ span.ids) :
    id = id' := by
  simp only [ids, List.mem_cons, Prod.mk.injEq, List.not_mem_nil, or_false] at h h'
  rcases h with ⟨rfl, rfl⟩ | ⟨rfl, rfl⟩
  · exact h'.elim (·.2.symm) fun hother => absurd hother.1 (by decide)
  · exact h'.elim (fun hother => absurd hother.1 (by decide)) (·.2.symm)

/-- An id is taken with the characters it has, if the other one is there. -/
theorem ofBody?_fill {name own : String} {text : List Char} (o : OpenObject name)
    (hname : name ∈ idNames) (hwritten : Written text own) :
    ofBody? (o.fill text) = some span ↔ (name, own) ∈ span.ids ∧
      ∀ p ∈ span.ids, p.1 ≠ name → ∃ v, IsLast (o.before ++ o.after) p.1 v ∧ IsId v p.2 := by
  obtain ⟨v, hstands, hown⟩ := hwritten.exists_stands
  rw [ofBody?_of_ofText (o.ofText_fill hstands)]
  constructor
  · intro h
    refine ⟨?_, fun p hp hne => ?_⟩
    · obtain ⟨id, hid⟩ := exists_mem_ids hname span
      obtain ⟨w, hlast, hw⟩ := h _ hid
      obtain rfl := o.isLast_members_self.mp hlast
      rwa [hown.unique hw]
    · obtain ⟨w, hlast, hw⟩ := h p hp
      exact ⟨w, (Entries.isLast_without (.inl hne)).mp hlast, hw⟩
  · rintro ⟨hself, hothers⟩ ⟨other, id⟩ hid
    by_cases hne : other = name
    · subst hne
      exact ⟨v, o.isLast_members_self.mpr rfl, id_unique hself hid ▸ hown⟩
    · obtain ⟨w, hlast, hw⟩ := hothers _ hid hne
      exact ⟨w, (Entries.isLast_without (.inl hne)).mpr hlast, hw⟩

/-- A pair is written with its ids as strings, and read back from that. -/
theorem ofBody?_text (span : TraceSpan) : ofBody? span.text = some span := by
  have hread : Value.ofText span.text = _ := Json.ofText_pairsText span.ids
  rw [← Entries.ofPairs_mapValues] at hread
  refine (ofBody?_of_ofText hread).mpr (isOf_iff.mpr ⟨?_, ?_⟩)
  · exact ⟨_, ⟨[], [("span_id", .string span.spanId)], rfl, by simp⟩, .string _⟩
  · exact ⟨_, ⟨[("trace_id", .string span.traceId)], [], rfl, by simp⟩, .string _⟩

end Bodies

end TraceSpan

namespace Status

namespace Client

open Json (Value Lists OpenObject)
open Entries (IsLast)
open TraceSpan (idNames IsId Unusable Written)

theorem spanOfText_eq_error_iff {endpoint : Endpoint} {body : String} {fault : Fault} :
    spanOfText endpoint body = .error fault ↔
      fault = .invalidResponse endpoint body ∧ Unusable body := by
  rw [spanOfText, ← TraceSpan.ofBody?_eq_none_iff]
  cases TraceSpan.ofBody? body <;> simp [eq_comm]

/-- A body is a pair of ids if it is an object whose last members of the two
names are a string or a number each, and the ids are those. Anything else is
an invalid response that shows the body as it came. Other members and the
order of the members play no part. A string is kept as it is and a whole
number of 64 bits, save the negative zero, as it is written, so an id is
never taken for one with other characters; and a pair is read back from its
own text. -/
theorem spanOfText_decided_by_last_ids (endpoint : Endpoint) :
    (∀ body span, spanOfText endpoint body = .ok span ↔
      ∃ members, Lists body members ∧ span.IsOf members) ∧
    (∀ body, (∃ span, spanOfText endpoint body = .ok span) ↔
      ∃ members, Lists body members ∧
        ∀ name ∈ idNames, ∃ v, IsLast members name v ∧ (v.kind = .string ∨ v.kind = .number)) ∧
    (∀ body fault, spanOfText endpoint body = .error fault ↔
      fault = .invalidResponse endpoint body ∧ Unusable body) ∧
    (∀ body body' members members', Lists body members → Lists body' members' →
      (∀ name ∈ idNames, ∀ v, IsLast members name v ↔ IsLast members' name v) →
      ∀ span, spanOfText endpoint body = .ok span ↔ spanOfText endpoint body' = .ok span) ∧
    (∀ name ∈ idNames, ∀ (o : OpenObject name) text own, Written text own →
      ∀ span, spanOfText endpoint (o.fill text) = .ok span ↔ (name, own) ∈ span.ids ∧
        ∀ p ∈ span.ids, p.1 ≠ name → ∃ v, IsLast (o.before ++ o.after) p.1 v ∧ IsId v p.2) ∧
    (∀ name ∈ idNames, ∀ (o o' : OpenObject name) text text' own own', Written text own →
      Written text' own' → own ≠ own' → ∀ span, spanOfText endpoint (o.fill text) = .ok span →
        spanOfText endpoint (o'.fill text') ≠ .ok span) ∧
    ∀ span, spanOfText endpoint span.text = .ok span := by
  simp only [spanOfText_eq_ok_iff]
  refine ⟨fun _ _ => TraceSpan.ofBody?_eq_some_iff, fun body => ?usable,
    fun _ _ => spanOfText_eq_error_iff, ?others,
    fun _ hname o _ _ hown _ => TraceSpan.ofBody?_fill o hname hown, ?apart,
    TraceSpan.ofBody?_text⟩
  case usable =>
    simp only [TraceSpan.ofBody?_eq_some_iff, ← TraceSpan.exists_isOf_iff]
    exact exists_comm.trans (exists_congr fun _ => exists_and_left)
  case others =>
    intro body body' members members' hlists hlists' hsame span
    rw [TraceSpan.ofBody?_of_lists hlists, TraceSpan.ofBody?_of_lists hlists',
      TraceSpan.isOf_congr hsame]
  case apart =>
    intro name hname o o' text text' own own' hown hown' hne span hspan hspan'
    obtain ⟨hid, -⟩ := (TraceSpan.ofBody?_fill o hname hown).mp hspan
    obtain ⟨hid', -⟩ := (TraceSpan.ofBody?_fill o' hname hown').mp (spanOfText_eq_ok_iff.mp hspan')
    exact hne (TraceSpan.id_unique hid hid')

/-- The trace has a negative number and the span, in front of it, a text. With
the positive number in the same place it is another pair, and with none it
is none. -/
theorem span_of_number_behind_text :
    ∃ o : OpenObject "trace_id",
      o.fill "-7".toList = "\x7b\"span_id\":\"s\",\"trace_id\":-7\x7d" ∧
      Written "-7".toList "-7" ∧ Written "7".toList "7" ∧
      spanOfText .findSpan (o.fill "-7".toList) = .ok ⟨"-7", "s"⟩ ∧
      spanOfText .findSpan (o.fill "7".toList) ≠ .ok ⟨"-7", "s"⟩ ∧
      Unusable "\x7b\"span_id\":\"s\"\x7d" ∧
      spanOfText .findSpan (TraceSpan.text ⟨"-7", "s"⟩) = .ok ⟨"-7", "s"⟩ := by
  let front : Json.Member := ⟨"span_id", Json.stringChars "s", .string "s"⟩
  let o : OpenObject "trace_id" := { OpenObject.sole "trace_id" with
    earlier := [front.spelling]
    before := [front.entry]
    earlier_spells := .cons (Json.Member.spells_spelling (.string "s")) .nil }
  have hseven : Json.IsWholePart ['7'] := by decide
  have hminus : Written "-7".toList "-7" :=
    .integer (.minus hseven) (by decide) (by decide) (by decide)
  have hplain : Written "7".toList "7" :=
    .integer (.bare hseven) (by decide) (by decide) (by decide)
  obtain ⟨-, -, hfault, -, hfill, hapart, htext⟩ := spanOfText_decided_by_last_ids .findSpan
  have hspan : spanOfText .findSpan (o.fill "-7".toList) = .ok ⟨"-7", "s"⟩ := by
    refine (hfill "trace_id" (by decide) o _ _ hminus _).mpr ⟨List.mem_cons_self, ?_⟩
    intro p hp hne
    obtain rfl : p = ("span_id", "s") := by
      rcases List.mem_cons.mp hp with rfl | hp
      · exact absurd rfl hne
      · exact List.mem_singleton.mp hp
    exact ⟨_, ⟨[], [], rfl, List.forall_mem_nil _⟩, .string "s"⟩
  have hnone : spanOfText .findSpan "\x7b\"span_id\":\"s\"\x7d" =
      .error (.invalidResponse .findSpan "\x7b\"span_id\":\"s\"\x7d") := by decide +kernel
  exact ⟨o, by decide, hminus, hplain, hspan,
    hapart "trace_id" (by decide) o o _ _ _ _ hminus hplain (by decide) _ hspan,
    ((hfault _ _).mp hnone).2, htext _⟩

end Client

end Status

end UploadHooks
