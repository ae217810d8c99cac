import UploadHooks.Json.Reader
import UploadHooks.Proofs.Entries
import UploadHooks.Proofs.Results

/-!
# Members in order

An object has its members in ascending order of their names and no name
twice. Values are not built that way by their type, but all that is read
is (`Value.ordered_of_ofBytes`): members enter an object through
`Entries.insert` alone, and the four mutual functions of the reader keep
the order of what they are given.
-/

namespace UploadHooks

namespace Json

/-- Every object in the value has its members in order. -/
inductive Value.Ordered : Value → Prop
  | null : Ordered .null
  | bool (b : Bool) : Ordered (.bool b)
  | number (n : Number) : Ordered (.number n)
  | string (s : String) : Ordered (.string s)
  | array {items : List Value} : (∀ v ∈ items, Ordered v) → Ordered (.array items)
  | object {members : List (String × Value)} : Entries.Ascending members →
      (∀ p ∈ members, Ordered p.2) → Ordered (.object members)

namespace Value

theorem ordered_array_iff {items : List Value} :
    Ordered (.array items) ↔ ∀ v ∈ items, v.Ordered :=
  ⟨fun | .array h => h, .array⟩

theorem ordered_object_iff {members : List (String × Value)} :
    Ordered (.object members) ↔ Entries.Ascending members ∧ ∀ p ∈ members, p.2.Ordered :=
  ⟨fun | .object hasc h => ⟨hasc, h⟩, fun ⟨hasc, h⟩ => .object hasc h⟩

theorem Ordered.cons {v : Value} {items : List Value} (hv : v.Ordered)
    (h : Ordered (.array items)) : Ordered (.array (v :: items)) :=
  .array (List.forall_mem_cons.mpr ⟨hv, ordered_array_iff.mp h⟩)

theorem Ordered.reverse {items : List Value} (h : Ordered (.array items)) :
    Ordered (.array items.reverse) :=
  .array fun v hv => ordered_array_iff.mp h v (List.mem_reverse.mp hv)

theorem Ordered.drop {items : List Value} (h : Ordered (.array items)) (n : Nat) :
    Ordered (.array (items.drop n)) :=
  .array fun v hv => ordered_array_iff.mp h v (List.mem_of_mem_drop hv)

theorem Ordered.get? {members : List (String × Value)} (h : Ordered (.object members))
    {name : String} {v : Value} (hget : Entries.get? members name = some v) : v.Ordered := by
  obtain ⟨hasc, hmembers⟩ := ordered_object_iff.mp h
  exact hmembers (name, v) ((Entries.mem_iff_get? hasc).mpr hget)

theorem Ordered.insert {v : Value} {members : List (String × Value)} (name : String)
    (hv : v.Ordered) (h : Ordered (.object members)) :
    Ordered (.object (Entries.insert name v members)) := by
  obtain ⟨hasc, hmembers⟩ := ordered_object_iff.mp h
  refine .object (Entries.insert_ascending name v hasc) fun p hp => ?_
  rcases (Entries.mem_insert_iff hasc).mp hp with rfl | ⟨hp, -⟩
  · exact hv
  · exact hmembers p hp

end Value

open Value (Ordered)

/-- What each function of the reader returns is in order, if what it goes
on from is. -/
structure KeepsOrder (bound : Nat) : Prop where
  value : ∀ {depth s v rest}, readValue bound depth s = .ok (v, rest) → v.Ordered
  items : ∀ {depth first items s items' rest},
    readItems bound depth first items s = .ok (items', rest) →
      Ordered (.array items) → Ordered (.array items')
  members : ∀ {depth first members s members' rest},
    readMembers bound depth first members s = .ok (members', rest) →
      Ordered (.object members) → Ordered (.object members')
  member : ∀ {depth members s members' rest},
    readMember bound depth members s = .ok (members', rest) →
      Ordered (.object members) → Ordered (.object members')

theorem keepsOrder_zero : KeepsOrder 0 where
  value h := by rw [readValue] at h; cases h
  items h := by rw [readItems] at h; cases h
  members h := by rw [readMembers] at h; cases h
  member h := by rw [readMember] at h; cases h

section Step

variable {bound depth : Nat} {s rest : List Utf8.Piece} {first : Bool}

theorem KeepsOrder.value_succ (ih : KeepsOrder bound) {v : Value}
    (h : readValue (bound + 1) depth s = .ok (v, rest)) : v.Ordered := by
  rw [readValue] at h
  split at h
  · cases h
  · split at h
    · obtain ⟨r, -, hr⟩ := map_eq_ok_iff.mp h
      cases hr
      exact .null
    · obtain ⟨r, -, hr⟩ := map_eq_ok_iff.mp h
      cases hr
      exact .bool true
    · obtain ⟨r, -, hr⟩ := map_eq_ok_iff.mp h
      cases hr
      exact .bool false
    · obtain ⟨r, -, hr⟩ := map_eq_ok_iff.mp h
      cases hr
      exact .number r.1
    · obtain ⟨r, -, hr⟩ := map_eq_ok_iff.mp h
      cases hr
      exact .string r.1
    · split at h
      · cases h
      · obtain ⟨r, hitems, hr⟩ := map_eq_ok_iff.mp h
        cases hr
        exact (ih.items hitems (.array (by simp))).reverse
    · split at h
      · cases h
      · obtain ⟨r, hmembers, hr⟩ := map_eq_ok_iff.mp h
        cases hr
        exact ih.members hmembers (.object List.Pairwise.nil (by simp))
    · split at h
      · obtain ⟨r, -, hr⟩ := map_eq_ok_iff.mp h
        cases hr
        exact .number r.1
      · cases h

theorem KeepsOrder.items_succ (ih : KeepsOrder bound) {items items' : List Value}
    (h : readItems (bound + 1) depth first items s = .ok (items', rest))
    (hitems : Ordered (.array items)) : Ordered (.array items') := by
  rw [readItems] at h
  split at h
  · cases h
  · split at h
    · cases h
      exact hitems
    · split at h
      · split at h
        · cases h
        · next v s' hv => exact ih.items h ((ih.value hv).cons hitems)
      · split at h
        · split at h
          · cases h
          · split at h
            · cases h
            · split at h
              · cases h
              · next v s' hv => exact ih.items h ((ih.value hv).cons hitems)
        · cases h

theorem KeepsOrder.members_succ (ih : KeepsOrder bound) {members members' : List (String × Value)}
    (h : readMembers (bound + 1) depth first members s = .ok (members', rest))
    (hmembers : Ordered (.object members)) : Ordered (.object members') := by
  rw [readMembers] at h
  split at h
  · cases h
  · split at h
    · cases h
      exact hmembers
    · split at h
      · split at h
        · exact ih.member h hmembers
        · cases h
      · split at h
        · split at h
          · cases h
          · split at h
            · exact ih.member h hmembers
            · split at h
              · cases h
              · cases h
        · cases h

theorem KeepsOrder.member_succ (ih : KeepsOrder bound) {members members' : List (String × Value)}
    (h : readMember (bound + 1) depth members s = .ok (members', rest))
    (hmembers : Ordered (.object members)) : Ordered (.object members') := by
  rw [readMember] at h
  split at h
  · cases h
  · next name s' _ =>
    split at h
    · cases h
    · split at h
      · split at h
        · cases h
        · next v s'' hv => exact ih.members h ((ih.value hv).insert name hmembers)
      · cases h

end Step

theorem keepsOrder (bound : Nat) : KeepsOrder bound := by
  induction bound with
  | zero => exact keepsOrder_zero
  | succ bound ih => exact ⟨ih.value_succ, ih.items_succ, ih.members_succ, ih.member_succ⟩

theorem ordered_of_readPieces {s : List Utf8.Piece} {v : Value} (h : readPieces s = .ok v) :
    v.Ordered := by
  rw [readPieces] at h
  split at h
  · cases h
  · next v' rest hv =>
    split at h
    · cases h
      exact (keepsOrder _).value hv
    · cases h

/-- No text denotes a value that is out of order. -/
theorem Value.ordered_of_ofBytes {bytes : List UInt8} {v : Value}
    (h : Value.ofBytes bytes = .ok v) : v.Ordered := by
  rw [ofBytes, ofPieces] at h
  cases hv : readPieces (Utf8.decode bytes) with
  | error fault =>
      rw [hv] at h
      cases h
  | ok value =>
      rw [hv] at h
      cases h
      exact ordered_of_readPieces hv

end Json

end UploadHooks
