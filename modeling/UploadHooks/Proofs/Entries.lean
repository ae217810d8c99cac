import Mathlib.Data.List.Sort
import UploadHooks.Entries

/-!
# Entries as finite maps

Entries in ascending order are determined by what can be looked up in them
(`Ascending.ext`), and building them from pairs is last-wins: a name gets
the value of its last pair (`get?_ofPairs_iff`), and no other pair matters
(`ofPairs_eq_iff`). Entries in order are what they are built from
(`ofPairs_of_ascending`), so building them again from their own pairs
changes nothing, and values may be converted before or after
(`ofPairs_mapValues`).
-/

namespace UploadHooks

namespace Entries

variable {α β : Type}

/-! ## What is in entries -/

theorem Ascending.tail {p : String × α} {m : Entries α} (h : Ascending (p :: m)) : Ascending m :=
  (List.pairwise_cons.mp h).2

theorem Ascending.head_lt {p q : String × α} {m : Entries α} (h : Ascending (p :: m))
    (hq : q ∈ m) : p.1 < q.1 :=
  (List.pairwise_cons.mp h).1 q hq

theorem mem_iff_get? {m : Entries α} (h : Ascending m) {name : String} {value : α} :
    (name, value) ∈ m ↔ get? m name = some value := by
  induction m with
  | nil => simp
  | cons p m ih =>
      rw [List.mem_cons, get?_cons, ih h.tail]
      by_cases hname : name = p.1
      · have hnot : get? m name ≠ some value := fun hget => by
          have hlt := h.head_lt ((ih h.tail).mpr hget)
          rw [hname] at hlt
          exact Std.lt_irrefl hlt
        simp only [hname, if_true, Option.some.injEq, Prod.ext_iff, true_and]
        rw [hname] at hnot
        simp only [hnot, or_false, eq_comm]
      · simp [hname, Prod.ext_iff]

theorem Ascending.get?_head {p : String × α} {m : Entries α} (h : Ascending (p :: m)) :
    get? m p.1 = none := by
  cases hget : get? m p.1 with
  | none => rfl
  | some value => exact absurd (h.head_lt ((mem_iff_get? h.tail).mpr hget)) Std.lt_irrefl

/-- Entries in which the same is found are the same. -/
theorem Ascending.ext {m m' : Entries α} (h : Ascending m) (h' : Ascending m')
    (hget : ∀ name value, get? m name = some value ↔ get? m' name = some value) : m = m' := by
  have hirrefl : Std.Irrefl fun p q : String × α => p.1 < q.1 := ⟨fun _ => Std.lt_irrefl⟩
  have hantisymm : Std.Antisymm fun p q : String × α => p.1 < q.1 :=
    ⟨fun _ _ hpq hqp => absurd (Std.lt_trans hpq hqp) Std.lt_irrefl⟩
  refine List.Pairwise.eq_of_mem_iff h h' fun p => ?_
  obtain ⟨name, value⟩ := p
  rw [mem_iff_get? h, mem_iff_get? h', hget]

/-- What a search finds in entries is the least name with such a value. -/
theorem Ascending.find?_eq_some_iff {m : Entries α} (h : Ascending m) {test : α → Bool}
    {p : String × α} :
    m.find? (fun q => test q.2) = some p ↔
      p ∈ m ∧ test p.2 = true ∧ ∀ q ∈ m, q.1 < p.1 → test q.2 = false := by
  rw [List.find?_eq_some_iff_append]
  constructor
  · rintro ⟨htest, before, after, rfl, hbefore⟩
    have hafter : Ascending (p :: after) := (List.pairwise_append.mp h).2.1
    refine ⟨by simp, htest, fun q hq hlt => ?_⟩
    rcases List.mem_append.mp hq with hq | hq
    · simpa using hbefore q hq
    · rcases List.mem_cons.mp hq with rfl | hq
      · exact absurd hlt Std.lt_irrefl
      · exact absurd (Std.lt_trans hlt (hafter.head_lt hq)) Std.lt_irrefl
  · rintro ⟨hmem, htest, hleast⟩
    obtain ⟨before, after, rfl⟩ := List.append_of_mem hmem
    refine ⟨htest, before, after, rfl, fun q hq => ?_⟩
    have hlt := (List.pairwise_append.mp h).2.2 q hq p (List.mem_cons_self ..)
    simpa using hleast q (List.mem_append_left _ hq) hlt

/-- An entry that is put in its place displaces the one of its name. -/
theorem mem_insert_iff {name : String} {value : α} {m : Entries α} (h : Ascending m)
    {q : String × α} :
    q ∈ insert name value m ↔ q = (name, value) ∨ q ∈ m ∧ q.1 ≠ name := by
  obtain ⟨n, v⟩ := q
  rw [mem_iff_get? (insert_ascending name value h), mem_iff_get? h, get?_insert]
  by_cases hn : n = name
  · simp [hn, eq_comm]
  · simp [hn]

/-! ## The last pair of a name -/

/-- The last of the pairs with that name has that value. -/
def IsLast (pairs : List (String × α)) (name : String) (value : α) : Prop :=
  ∃ earlier later, pairs = earlier ++ (name, value) :: later ∧ ∀ p ∈ later, p.1 ≠ name

theorem isLast_cons {p : String × α} {pairs : List (String × α)} {name : String} {value : α} :
    IsLast (p :: pairs) name value ↔
      IsLast pairs name value ∨ p = (name, value) ∧ ∀ q ∈ pairs, q.1 ≠ name := by
  constructor
  · rintro ⟨earlier, later, h, hlater⟩
    cases earlier with
    | nil =>
        obtain ⟨rfl, rfl⟩ := List.cons.inj h
        exact .inr ⟨rfl, hlater⟩
    | cons q earlier =>
        obtain ⟨rfl, rfl⟩ := List.cons.inj h
        exact .inl ⟨earlier, later, rfl, hlater⟩
  · rintro (⟨earlier, later, rfl, hlater⟩ | ⟨rfl, hlater⟩)
    · exact ⟨p :: earlier, later, rfl, hlater⟩
    · exact ⟨[], pairs, rfl, hlater⟩

/-- Of the pairs with a name there is a last one. -/
theorem exists_isLast_iff {pairs : List (String × α)} {name : String} :
    (∃ value, IsLast pairs name value) ↔ ∃ p ∈ pairs, p.1 = name := by
  induction pairs with
  | nil => simp [IsLast]
  | cons p pairs ih =>
      simp only [isLast_cons, exists_or, ih, List.exists_mem_cons_iff]
      by_cases hlater : ∃ q ∈ pairs, q.1 = name
      · exact iff_of_true (.inl hlater) (.inr hlater)
      · have hnone : ∀ q ∈ pairs, q.1 ≠ name := fun q hq hname => hlater ⟨q, hq, hname⟩
        rw [or_iff_right hlater, or_iff_left hlater]
        constructor
        · rintro ⟨value, rfl, -⟩
          rfl
        · rintro rfl
          exact ⟨p.2, rfl, hnone⟩

/-- Where no name occurs twice, every pair is the last of its name. -/
theorem isLast_iff_mem {pairs : List (String × α)} (h : (pairs.map Prod.fst).Nodup)
    {name : String} {value : α} : IsLast pairs name value ↔ (name, value) ∈ pairs := by
  induction pairs with
  | nil => simp [IsLast]
  | cons p pairs ih =>
      obtain ⟨hhead, htail⟩ := List.nodup_cons.mp h
      rw [isLast_cons, ih htail, List.mem_cons, or_comm, @eq_comm _ p]
      refine or_congr_left (and_iff_left_of_imp ?_)
      rintro rfl q hq hname
      exact hhead (List.mem_map.mpr ⟨q, hq, hname⟩)

/-- A pair does not count for other names, and not at all if another one of
its name stands behind it. -/
theorem isLast_without {before after : List (String × α)} {p : String × α} {name : String}
    {value : α} (h : name ≠ p.1 ∨ ∃ q ∈ after, q.1 = p.1) :
    IsLast (before ++ p :: after) name value ↔ IsLast (before ++ after) name value := by
  induction before with
  | nil =>
      rw [List.nil_append, List.nil_append, isLast_cons]
      refine or_iff_left ?_
      rintro ⟨rfl, hnone⟩
      rcases h with hne | ⟨q, hq, hname⟩
      · exact hne rfl
      · exact hnone q hq hname
  | cons b before ih =>
      have hnames : (∀ r ∈ before ++ p :: after, r.1 ≠ name) ↔
          ∀ r ∈ before ++ after, r.1 ≠ name := by
        simp only [List.forall_mem_append, List.forall_mem_cons]
        refine and_congr_right fun _ => and_iff_right_of_imp fun hafter => ?_
        rcases h with hne | ⟨q, hq, hname⟩
        · exact Ne.symm hne
        · rw [← hname]
          exact hafter q hq
      rw [List.cons_append, List.cons_append, isLast_cons, isLast_cons, ih, hnames]

theorem get?_foldl_insert_iff (pairs : List (String × α)) (m : Entries α) {name : String}
    {value : α} :
    get? (pairs.foldl (fun m p => insert p.1 p.2 m) m) name = some value ↔
      IsLast pairs name value ∨ (∀ p ∈ pairs, p.1 ≠ name) ∧ get? m name = some value := by
  induction pairs generalizing m with
  | nil => simp [IsLast]
  | cons p pairs ih =>
      rw [List.foldl_cons, ih, get?_insert, isLast_cons]
      simp only [List.forall_mem_cons]
      by_cases hname : name = p.1
      · subst hname
        simp [Prod.ext_iff, and_comm]
      · simp only [hname, if_false, Ne.symm hname, ne_eq, not_false_eq_true, true_and]
        have hp : p ≠ (name, value) := fun h => hname (by rw [h])
        simp [hp]

/-- A name has the value of its last pair, and no other. -/
theorem get?_ofPairs_iff {pairs : List (String × α)} {name : String} {value : α} :
    get? (ofPairs pairs) name = some value ↔ IsLast pairs name value := by
  rw [ofPairs, get?_foldl_insert_iff]
  simp

theorem IsLast.unique {pairs : List (String × α)} {name : String} {value value' : α}
    (h : IsLast pairs name value) (h' : IsLast pairs name value') : value = value' :=
  Option.some.inj ((get?_ofPairs_iff.mpr h).symm.trans (get?_ofPairs_iff.mpr h'))

theorem mem_ofPairs_iff {pairs : List (String × α)} {name : String} {value : α} :
    (name, value) ∈ ofPairs pairs ↔ IsLast pairs name value :=
  (mem_iff_get? (ofPairs_ascending pairs)).trans get?_ofPairs_iff

/-- The last pairs of the names are all that counts. -/
theorem ofPairs_eq_iff {pairs pairs' : List (String × α)} :
    ofPairs pairs = ofPairs pairs' ↔
      ∀ name value, IsLast pairs name value ↔ IsLast pairs' name value := by
  constructor
  · intro h name value
    rw [← get?_ofPairs_iff, ← get?_ofPairs_iff, h]
  · intro h
    refine (ofPairs_ascending pairs).ext (ofPairs_ascending pairs') fun name value => ?_
    rw [get?_ofPairs_iff, get?_ofPairs_iff, h]

theorem ofPairs_perm {pairs pairs' : List (String × α)} (hperm : pairs.Perm pairs')
    (hnodup : (pairs.map Prod.fst).Nodup) : ofPairs pairs = ofPairs pairs' := by
  have hnodup' : (pairs'.map Prod.fst).Nodup := (hperm.map Prod.fst).nodup_iff.mp hnodup
  refine ofPairs_eq_iff.mpr fun name value => ?_
  rw [isLast_iff_mem hnodup, isLast_iff_mem hnodup', hperm.mem_iff]

/-! ## Building again -/

theorem insert_of_forall_lt {name : String} {m : Entries α} (h : ∀ q ∈ m, q.1 < name)
    (value : α) : insert name value m = m ++ [(name, value)] := by
  induction m with
  | nil => rfl
  | cons p m ih =>
      have hlt : p.1 < name := h p (List.mem_cons_self ..)
      have hnot : ¬ name < p.1 := fun hgt => Std.lt_irrefl (Std.lt_trans hlt hgt)
      have hne : name ≠ p.1 := fun heq => Std.lt_irrefl (heq ▸ hlt)
      rw [insert, if_neg hnot, if_neg hne, ih fun q hq => h q (List.mem_cons_of_mem _ hq)]
      rfl

theorem foldl_insert_of_ascending (m done : Entries α) (h : Ascending (done ++ m)) :
    m.foldl (fun m p => insert p.1 p.2 m) done = done ++ m := by
  induction m generalizing done with
  | nil => simp
  | cons p m ih =>
      have hlt : ∀ q ∈ done, q.1 < p.1 := fun q hq =>
        (List.pairwise_append.mp h).2.2 q hq p (List.mem_cons_self ..)
      rw [List.foldl_cons, insert_of_forall_lt hlt, ih _ (by simpa using h)]
      simp

theorem ofPairs_of_ascending {m : Entries α} (h : Ascending m) : ofPairs m = m :=
  foldl_insert_of_ascending m [] h

/-! ## Converting values -/

/-- The same names with other values. -/
def mapValues (f : α → β) (m : List (String × α)) : List (String × β) :=
  m.map fun p => (p.1, f p.2)

theorem get?_mapValues (f : α → β) (m : List (String × α)) (name : String) :
    get? (mapValues f m) name = (get? m name).map f := by
  induction m with
  | nil => rfl
  | cons p m ih =>
      rw [mapValues, List.map_cons, get?_cons, get?_cons, ← mapValues, ih]
      split <;> rfl

theorem insert_mapValues (f : α → β) (name : String) (value : α) (m : Entries α) :
    insert name (f value) (mapValues f m) = mapValues f (insert name value m) := by
  induction m with
  | nil => rfl
  | cons p m ih =>
      obtain ⟨n, v⟩ := p
      simp only [mapValues, List.map_cons, insert] at ih ⊢
      split
      · rfl
      · split
        · rfl
        · rw [List.map_cons, ih]

theorem ofPairs_mapValues (f : α → β) (pairs : List (String × α)) :
    ofPairs (mapValues f pairs) = mapValues f (ofPairs pairs) := by
  have step : ∀ (ps : List (String × α)) (m : Entries α),
      (mapValues f ps).foldl (fun m p => insert p.1 p.2 m) (mapValues f m) =
        mapValues f (ps.foldl (fun m p => insert p.1 p.2 m) m) := by
    intro ps
    induction ps with
    | nil => exact fun _ => rfl
    | cons p ps ih =>
        intro m
        rw [List.foldl_cons, ← ih, ← insert_mapValues]
        rfl
  exact step pairs []

end Entries

end UploadHooks
