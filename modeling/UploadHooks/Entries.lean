/-!
# Entries in key order

Upload metadata and the members of a JSON object are finite maps from
names to values that are always listed in ascending order of the names,
so that two of them with the same entries are the same and are written
the same way. Names are compared by code point, which is also the order
of their UTF-8 bytes.

`Entries.insert` puts an entry in its place and replaces an earlier one
of the same name. `get?_insert` and `insert_ascending` say all there is
to know about it.
-/

namespace UploadHooks

abbrev Entries (α : Type) := List (String × α)

namespace Entries

variable {α : Type}

def insert (name : String) (value : α) : Entries α → Entries α
  | [] => [(name, value)]
  | (n, v) :: rest =>
    if name < n then (name, value) :: (n, v) :: rest
    else if name = n then (name, value) :: rest
    else (n, v) :: insert name value rest

/-- The entries of a list of pairs; of two pairs with one name the later
one counts. -/
def ofPairs (pairs : List (String × α)) : Entries α :=
  pairs.foldl (fun m p => insert p.1 p.2 m) []

def get? (m : Entries α) (name : String) : Option α := m.lookup name

/-- The names stand in strictly ascending order. -/
def Ascending (m : Entries α) : Prop := m.Pairwise (fun p q => p.1 < q.1)

/-! ## The view through `get?` -/

@[simp] theorem get?_nil (name : String) : get? ([] : Entries α) name = none := rfl

theorem get?_cons (p : String × α) (m : Entries α) (name : String) :
    get? (p :: m) name = if name = p.1 then some p.2 else get? m name := by
  obtain ⟨n, v⟩ := p
  by_cases h : name = n
  · simp [get?, h]
  · simp [get?, List.lookup_cons, h, beq_eq_false_iff_ne.mpr h]

theorem get?_insert (name : String) (value : α) (m : Entries α) (k : String) :
    get? (insert name value m) k = if k = name then some value else get? m k := by
  induction m with
  | nil => simp [insert, get?_cons]
  | cons p rest ih =>
    obtain ⟨n, v⟩ := p
    simp only [insert]
    split
    · simp [get?_cons]
    · split
      · next h => subst h; by_cases hk : k = name <;> simp [get?_cons, hk]
      · next h =>
        simp only [get?_cons, ih]
        by_cases hk : k = n
        · subst hk
          simp [Ne.symm h]
        · simp [hk]

/-! ## Order -/

theorem lt_of_not_lt_of_ne {a b : String} (h : ¬ a < b) (hne : a ≠ b) : b < a := by
  rcases Std.le_total (a := a) (b := b) with hab | hba
  · exact absurd (Std.lt_of_le_of_ne hab hne) h
  · exact Std.lt_of_le_of_ne hba (Ne.symm hne)

theorem mem_insert_name {name : String} {value : α} {m : Entries α} {q : String × α}
    (h : q ∈ insert name value m) : q.1 = name ∨ q ∈ m := by
  induction m with
  | nil => simp [insert] at h; exact .inl (by rw [h])
  | cons p rest ih =>
    simp only [insert] at h
    split at h
    · rcases List.mem_cons.mp h with rfl | h
      · exact .inl rfl
      · exact .inr h
    · split at h
      · rcases List.mem_cons.mp h with rfl | h
        · exact .inl rfl
        · exact .inr (List.mem_cons_of_mem _ h)
      · rcases List.mem_cons.mp h with rfl | h
        · exact .inr (List.mem_cons_self ..)
        · exact (ih h).imp id (List.mem_cons_of_mem _)

theorem insert_ascending (name : String) (value : α) {m : Entries α} (h : Ascending m) :
    Ascending (insert name value m) := by
  induction m with
  | nil => simp [insert, Ascending]
  | cons p rest ih =>
    obtain ⟨n, v⟩ := p
    have hrest : Ascending rest := (List.pairwise_cons.mp h).2
    have hhead : ∀ q ∈ rest, n < q.1 := (List.pairwise_cons.mp h).1
    simp only [insert]
    split
    · next hlt =>
      refine List.pairwise_cons.mpr ⟨fun q hq => ?_, h⟩
      rcases List.mem_cons.mp hq with rfl | hq
      · exact hlt
      · exact Std.lt_trans hlt (hhead q hq)
    · split
      · next heq =>
        subst heq
        exact List.pairwise_cons.mpr ⟨hhead, hrest⟩
      · next hlt hne =>
        refine List.pairwise_cons.mpr ⟨fun q hq => ?_, ih hrest⟩
        rcases mem_insert_name hq with hname | hq
        · rw [hname]; exact lt_of_not_lt_of_ne hlt hne
        · exact hhead q hq

theorem ofPairs_ascending (pairs : List (String × α)) : Ascending (ofPairs pairs) := by
  have step : ∀ (ps : List (String × α)) (m : Entries α), Ascending m →
      Ascending (ps.foldl (fun m p => insert p.1 p.2 m) m) := by
    intro ps
    induction ps with
    | nil => exact fun _ h => h
    | cons p ps ih => exact fun m h => ih _ (insert_ascending p.1 p.2 h)
  exact step pairs [] List.Pairwise.nil

end Entries

end UploadHooks
