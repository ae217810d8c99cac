import UploadHooks.Proofs.Entries
import UploadHooks.Proofs.Json.Inversion

/-!
# Objects with one value left open

`OpenObject` is the text of an object in which the value of one member is
left open. Every object that is read and has a string there comes from one
(`OpenObject.exists_fill`). What is filled in is the last value of that name
and changes nothing about the other names.
-/

namespace UploadHooks

namespace Json

open Entries (IsLast)

/-- The text of an object, with blanks around it, up to the value of one
member: the last one of its name. -/
structure OpenObject (name : String) where
  opening : List Char
  closing : List Char
  earlier : List Spelling
  later : List Spelling
  member : Spelling
  before : List (String × Value)
  after : List (String × Value)
  levels : Nat
  opening_blank : AllBlank opening
  closing_blank : AllBlank closing
  earlier_spells : List.Forall₂ (Spelling.Spells levels) earlier before
  later_spells : List.Forall₂ (Spelling.Spells levels) later after
  names : member.Names name
  last : ∀ p ∈ after, p.1 ≠ name
  shallow : levels + 1 < depthLimit

namespace OpenObject

variable {name : String}

/-- The text with that value in the open place. -/
def fill (o : OpenObject name) (text : List Char) : String :=
  String.ofList (o.opening ++
    (objectText (o.earlier ++ { o.member with text := text } :: o.later) ++ o.closing))

/-- The members with that value in the open place. -/
def members (o : OpenObject name) (v : Value) : List (String × Value) :=
  o.before ++ (name, v) :: o.after

/-- An object with that member alone, written without blanks. -/
def sole (name : String) : OpenObject name where
  opening := []
  closing := []
  earlier := []
  later := []
  member := Member.spelling ⟨name, [], .null⟩
  before := []
  after := []
  levels := 0
  opening_blank := allBlank_nil
  closing_blank := allBlank_nil
  earlier_spells := .nil
  later_spells := .nil
  names := ⟨allBlank_nil, endsString_escaped name, allBlank_nil, allBlank_nil, allBlank_nil⟩
  last := List.forall_mem_nil _
  shallow := by decide

theorem ofText_fill (o : OpenObject name) {text : List Char} {v : Value} (h : Stands text v 0) :
    Value.ofText (o.fill text) = .ok (.object (Entries.ofPairs (o.members v))) := by
  have hmember : Spelling.Spells o.levels { o.member with text := text } (name, v) :=
    ⟨⟨o.names.before, o.names.name, o.names.gap, o.names.lead, o.names.after⟩,
      h.mono (Nat.zero_le _)⟩
  have hall := List.rel_append o.earlier_spells (.cons hmember o.later_spells)
  exact (Denotes.objectText hall).ofText_between o.shallow o.opening_blank o.closing_blank

/-- Every object that has a string in a member is one with that member left
open. -/
theorem exists_fill {s : String} {members : List (String × Value)} {content : String}
    (h : Value.ofText s = .ok (.object members))
    (hget : Entries.get? members name = some (.string content)) :
    ∃ (o : OpenObject name) (quoted : List Char), EndsString quoted content ∧
      o.fill ('"' :: quoted) = s := by
  obtain ⟨entries, ⟨opening, text, closing, hs, hopening, hclosing, htext⟩, rfl⟩ :=
    exists_lists h
  obtain ⟨before, after, rfl, hlast⟩ := Entries.get?_ofPairs_iff.mp hget
  generalize hall : before ++ (name, .string content) :: after = all at htext
  cases htext with
  | none hblanks => simp at hall
  | @some spellings _ hspells =>
      subst hall
      have hearlier := List.forall₂_take_append _ _ _ hspells
      have hrest := List.forall₂_drop_append _ _ _ hspells
      obtain ⟨w, later, hw, hlater, hdrop⟩ := List.forall₂_cons_right_iff.mp hrest
      obtain ⟨blanks, quoted, hquoted, hblanks, hends⟩ := hw.value.exists_endsString
      have hlead : AllBlank (w.lead ++ blanks) :=
        List.forall_mem_append.mpr ⟨hw.names.lead, hblanks⟩
      refine ⟨{ opening := opening
                closing := closing
                earlier := spellings.take before.length
                later := later
                member := { w with lead := w.lead ++ blanks }
                before := before
                after := after
                levels := depthLimit - 2
                opening_blank := hopening
                closing_blank := hclosing
                earlier_spells := hearlier
                later_spells := hlater
                names := ⟨hw.names.before, hw.names.name, hw.names.gap, hlead, hw.names.after⟩
                last := hlast
                shallow := by decide }, quoted, hends, ?_⟩
      have hsame : membersChars (spellings.take before.length ++
          { w with lead := w.lead ++ blanks, text := '"' :: quoted } :: later) =
            membersChars spellings := by
        conv_rhs => rw [← List.take_append_drop before.length spellings, hdrop]
        refine membersChars_congr ?_
        simp [Spelling.chars, Spelling.tailChars, hquoted]
      rw [fill, objectText, hsame, ← hs, String.ofList_toList]

/-- Under its name stands what was filled in. -/
theorem isLast_members_self (o : OpenObject name) {v w : Value} :
    IsLast (o.members v) name w ↔ w = v := by
  have hself : Entries.get? (Entries.ofPairs (o.members v)) name = some v :=
    Entries.get?_ofPairs_iff.mpr ⟨o.before, o.after, rfl, o.last⟩
  rw [← Entries.get?_ofPairs_iff, hself, Option.some.injEq, eq_comm]

theorem isLast_members_of_ne (o : OpenObject name) {field : String} (hne : field ≠ name)
    {v v' w : Value} : IsLast (o.members v) field w ↔ IsLast (o.members v') field w := by
  rw [OpenObject.members, OpenObject.members, Entries.isLast_without (.inl hne),
    Entries.isLast_without (.inl hne)]

end OpenObject

end Json

end UploadHooks
