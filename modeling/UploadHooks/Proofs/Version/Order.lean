import UploadHooks.Proofs.Version.Notation

/-!
# The order of versions

There are two views of the numbers of a version. Equality and hashing look
at the list without its trailing zeros, and the order at the list with as
many zeros added as the longer one needs. `pad` is the second view, on
which the order is the usual one of lists (`compareComponents_eq`), and
everything there is to know about the order follows from that of lists.

Dropping zeros and adding them undo each other (`dropTrailingZeros_pad`,
`pad_dropTrailingZeros`), so two lists are the same in one view exactly if
they are in the other. That is why the order agrees with equality.
-/

namespace UploadHooks

namespace Version

/-- The numbers with zeros added up to that many. -/
def pad (width : Nat) (numbers : List Nat) : List Nat :=
  numbers ++ List.replicate (width - numbers.length) 0

/-! ## Trailing zeros -/

section Zeros

variable {width : Nat} {numbers numbers' : List Nat}

@[simp] theorem pad_succ_nil (width : Nat) : pad (width + 1) [] = 0 :: pad width [] := rfl

@[simp] theorem pad_succ_cons (width n : Nat) (numbers : List Nat) :
    pad (width + 1) (n :: numbers) = n :: pad width numbers := by
  simp [pad]

theorem exists_eq_append_zeros (numbers : List Nat) :
    ∃ zeros, numbers = dropTrailingZeros numbers ++ List.replicate zeros 0 := by
  have hzero : ∀ n ∈ numbers.reverse.takeWhile (· == 0), n = 0 := fun n hn => by
    simpa using List.mem_takeWhile_imp hn
  have hsplit := List.takeWhile_append_dropWhile (p := (· == 0)) (l := numbers.reverse)
  rw [List.eq_replicate_of_mem hzero] at hsplit
  refine ⟨(numbers.reverse.takeWhile (· == 0)).length, ?_⟩
  rw [← List.reverse_inj, dropTrailingZeros, List.reverse_append, List.reverse_reverse,
    List.reverse_replicate]
  exact hsplit.symm

theorem dropTrailingZeros_append_zeros (numbers : List Nat) (zeros : Nat) :
    dropTrailingZeros (numbers ++ List.replicate zeros 0) = dropTrailingZeros numbers := by
  rw [dropTrailingZeros, dropTrailingZeros, List.reverse_append, List.reverse_replicate,
    List.dropWhile_append_of_pos]
  intro n hn
  simp [List.eq_of_mem_replicate hn]

theorem dropTrailingZeros_pad (width : Nat) (numbers : List Nat) :
    dropTrailingZeros (pad width numbers) = dropTrailingZeros numbers :=
  dropTrailingZeros_append_zeros ..

theorem pad_dropTrailingZeros (h : numbers.length ≤ width) :
    pad width (dropTrailingZeros numbers) = pad width numbers := by
  obtain ⟨zeros, hzeros⟩ := exists_eq_append_zeros numbers
  have hlength := congrArg List.length hzeros
  rw [List.length_append, List.length_replicate] at hlength
  calc pad width (dropTrailingZeros numbers)
      = dropTrailingZeros numbers ++ List.replicate (zeros + (width - numbers.length)) 0 := by
        rw [pad]
        congr 2
        omega
    _ = pad width numbers := by
        rw [List.replicate_add, ← List.append_assoc, ← hzeros, pad]

theorem length_dropTrailingZeros_le (numbers : List Nat) :
    (dropTrailingZeros numbers).length ≤ numbers.length := by
  obtain ⟨zeros, hzeros⟩ := exists_eq_append_zeros numbers
  have hlength := congrArg List.length hzeros
  rw [List.length_append] at hlength
  omega

theorem mem_of_mem_dropTrailingZeros {n : Nat} (h : n ∈ dropTrailingZeros numbers) :
    n ∈ numbers := by
  obtain ⟨zeros, hzeros⟩ := exists_eq_append_zeros numbers
  rw [hzeros]
  exact List.mem_append_left _ h

/-- The two views take the same lists for equal. -/
theorem dropTrailingZeros_eq_iff (h : numbers.length ≤ width) (h' : numbers'.length ≤ width) :
    dropTrailingZeros numbers = dropTrailingZeros numbers' ↔
      pad width numbers = pad width numbers' := by
  constructor
  · intro heq
    rw [← pad_dropTrailingZeros h, ← pad_dropTrailingZeros h', heq]
  · intro heq
    rw [← dropTrailingZeros_pad width numbers, ← dropTrailingZeros_pad width numbers', heq]

end Zeros

/-! ## The order of components -/

/-- With zeros added, components are compared as lists are. One number of
each is compared at a time, which is a zero where a list has ended. -/
theorem compareComponents_eq {as bs : List Nat} {width : Nat} (ha : as.length ≤ width)
    (hb : bs.length ≤ width) :
    compareComponents as bs = Ord.compare (pad width as) (pad width bs) := by
  induction width generalizing as bs with
  | zero =>
      obtain rfl := List.eq_nil_of_length_eq_zero (Nat.le_zero.mp ha)
      obtain rfl := List.eq_nil_of_length_eq_zero (Nat.le_zero.mp hb)
      rw [compareComponents]
      exact Std.ReflCmp.compare_self.symm
  | succ width ih =>
      rw [List.compare_eq_compareLex] at ih ⊢
      cases as with
      | nil =>
          cases bs with
          | nil =>
              rw [compareComponents, ← List.compare_eq_compareLex]
              exact Std.ReflCmp.compare_self.symm
          | cons b bs =>
              rw [compareComponents, pad_succ_nil, pad_succ_cons, List.compareLex_cons_cons,
                ih (Nat.zero_le _) (Nat.le_of_succ_le_succ hb)]
      | cons a as =>
          cases bs with
          | nil =>
              rw [compareComponents, pad_succ_nil, pad_succ_cons, List.compareLex_cons_cons,
                ih (Nat.le_of_succ_le_succ ha) (Nat.zero_le _)]
          | cons b bs =>
              rw [compareComponents, pad_succ_cons, pad_succ_cons, List.compareLex_cons_cons,
                ih (Nat.le_of_succ_le_succ ha) (Nat.le_of_succ_le_succ hb)]

/-- The first numbers are looked at first. -/
theorem compareComponents_eq_then (as bs : List Nat) :
    compareComponents as bs =
      (Ord.compare (as.headD 0) (bs.headD 0)).then (compareComponents as.tail bs.tail) := by
  cases as with
  | nil =>
      cases bs with
      | nil => simp [compareComponents]
      | cons b bs => simp [compareComponents]
  | cons a as =>
      cases bs with
      | nil => simp [compareComponents]
      | cons b bs => simp [compareComponents]

/-! ## The order of versions -/

/-- As many zeros as the longer of three lists needs. -/
theorem exists_width (as bs cs : List Nat) :
    ∃ width, as.length ≤ width ∧ bs.length ≤ width ∧ cs.length ≤ width :=
  ⟨as.length + bs.length + cs.length, by omega, by omega, by omega⟩

section Laws

variable (a b c : Version)

theorem compare_swap : compare b a = (compare a b).swap := by
  obtain ⟨width, ha, hb, -⟩ := exists_width a.components b.components []
  rw [compare, compare, compareComponents_eq hb ha, compareComponents_eq ha hb]
  exact Std.OrientedCmp.eq_swap

theorem le_iff {width : Nat} (ha : a.components.length ≤ width)
    (hb : b.components.length ≤ width) :
    le a b = true ↔
      (Ord.compare (pad width a.components) (pad width b.components)).isLE = true := by
  rw [le, compare, compareComponents_eq ha hb]
  cases Ord.compare (pad width a.components) (pad width b.components) <;> decide

theorem le_refl : le a a = true := by
  rw [le_iff a a (Nat.le_refl _) (Nat.le_refl _), Std.compare_self]
  rfl

theorem le_total : le a b = true ∨ le b a = true := by
  rw [le, le, compare_swap a b]
  cases compare a b <;> decide

variable {a b c}

theorem le_trans (hab : le a b = true) (hbc : le b c = true) : le a c = true := by
  obtain ⟨width, ha, hb, hc⟩ := exists_width a.components b.components c.components
  rw [le_iff _ _ ha hb] at hab
  rw [le_iff _ _ hb hc] at hbc
  rw [le_iff _ _ ha hc]
  exact Std.TransCmp.isLE_trans hab hbc

theorem compare_eq_of_le_of_le (hab : le a b = true) (hba : le b a = true) :
    compare a b = .eq := by
  rw [le, compare_swap a b] at hba
  rw [le] at hab
  cases h : compare a b with
  | eq => rfl
  | lt => simp [h] at hba
  | gt => simp [h] at hab

theorem major_le_major (h : le a b = true) : a.major ≤ b.major := by
  rw [le, compare, compareComponents_eq_then] at h
  by_contra hlt
  have hgt : Ord.compare (a.components.headD 0) (b.components.headD 0) = .gt :=
    Nat.compare_eq_gt.mpr (Nat.lt_of_not_le hlt)
  rw [hgt] at h
  cases h

end Laws

/-! ## Hashing -/

theorem length_wordBytes (n : Nat) : (wordBytes n).length = 8 := by
  rw [wordBytes, List.length_map, List.length_range]

/-- Eight bytes hold a number of 64 bits. -/
theorem wordBytes_inj {n m : Nat} (hn : n ≤ Numeric.max64) (hm : m ≤ Numeric.max64)
    (h : wordBytes n = wordBytes m) : n = m := by
  have hbyte : ∀ i < 8, n / 256 ^ i % 256 = m / 256 ^ i % 256 := fun i hi => by
    have hget := congrArg (fun bytes => (bytes[i]?).map UInt8.toNat) h
    simpa [wordBytes, hi] using hget
  have h0 := hbyte 0 (by decide)
  have h1 := hbyte 1 (by decide)
  have h2 := hbyte 2 (by decide)
  have h3 := hbyte 3 (by decide)
  have h4 := hbyte 4 (by decide)
  have h5 := hbyte 5 (by decide)
  have h6 := hbyte 6 (by decide)
  have h7 := hbyte 7 (by decide)
  have hlimit : Numeric.max64 = 18446744073709551615 := rfl
  rw [hlimit] at hn hm
  simp only [Nat.reducePow, Nat.div_one] at h0 h1 h2 h3 h4 h5 h6 h7
  omega

theorem flatMap_wordBytes_inj {as bs : List Nat} (ha : ∀ n ∈ as, n ≤ Numeric.max64)
    (hb : ∀ n ∈ bs, n ≤ Numeric.max64) (h : as.flatMap wordBytes = bs.flatMap wordBytes) :
    as = bs := by
  induction as generalizing bs with
  | nil =>
      cases bs with
      | nil => rfl
      | cons b bs =>
          have hlength := congrArg List.length h
          rw [List.flatMap_cons, List.length_append, length_wordBytes] at hlength
          exact absurd hlength (by rw [List.flatMap_nil, List.length_nil]; omega)
  | cons a as ih =>
      cases bs with
      | nil =>
          have hlength := congrArg List.length h
          rw [List.flatMap_cons, List.length_append, length_wordBytes] at hlength
          exact absurd hlength (by simp)
      | cons b bs =>
          rw [List.flatMap_cons, List.flatMap_cons] at h
          obtain ⟨hword, hrest⟩ := List.append_inj h (by rw [length_wordBytes, length_wordBytes])
          obtain ⟨ha, has⟩ := List.forall_mem_cons.mp ha
          obtain ⟨hb, hbs⟩ := List.forall_mem_cons.mp hb
          rw [wordBytes_inj ha hb hword, ih has hbs hrest]

theorem hashed_eq_iff {a b : Version} (ha : ∀ n ∈ a.components, n ≤ Numeric.max64)
    (hb : ∀ n ∈ b.components, n ≤ Numeric.max64) :
    hashed a = hashed b ↔ a.components = b.components := by
  constructor
  · intro h
    obtain ⟨-, hcomponents⟩ := List.append_inj h (by rw [length_wordBytes, length_wordBytes])
    exact flatMap_wordBytes_inj ha hb hcomponents
  · intro h
    rw [hashed, hashed, h]

/-! ## Written versions -/

theorem components_le_max64 {text : String} {v : Version} (h : parse text = .ok v) :
    ∀ n ∈ v.components, n ≤ Numeric.max64 := by
  obtain ⟨numbers, hspells, rfl⟩ := parse_eq_ok_iff.mp h
  exact fun n hn => hspells.le_max64 n (mem_of_mem_dropTrailingZeros hn)

/-- Written versions are ordered by the numbers they spell, from the left
and with zeros added to the shorter of two. That is a total order, and
equality and hashing tell the same versions apart as it does. -/
theorem compare_orders_spelled_numbers {s t : String} {a b : Version} (ha : parse s = .ok a)
    (hb : parse t = .ok b) (c : Version) :
    (∃ as bs, Spells s as ∧ Spells t bs ∧
      compare a b = Ord.compare (pad (max as.length bs.length) as)
        (pad (max as.length bs.length) bs)) ∧
    le a a = true ∧
    (le a b = true → le b a = true → same a b = true) ∧
    (le a b = true → le b c = true → le a c = true) ∧
    (le a b = true ∨ le b a = true) ∧
    compare b a = (compare a b).swap ∧
    (compare a b = .eq ↔ same a b = true) ∧
    (same a b = true ↔ hashed a = hashed b) ∧
    partialCompare a b = some (compare a b) ∧
    (le a b = true → a.major ≤ b.major) := by
  have hahash := components_le_max64 ha
  have hbhash := components_le_max64 hb
  obtain ⟨as, hsa, rfl⟩ := parse_eq_ok_iff.mp ha
  obtain ⟨bs, hsb, rfl⟩ := parse_eq_ok_iff.mp hb
  have hla : as.length ≤ max as.length bs.length := Nat.le_max_left ..
  have hlb : bs.length ≤ max as.length bs.length := Nat.le_max_right ..
  have hcompare : compare ⟨s, dropTrailingZeros as⟩ ⟨t, dropTrailingZeros bs⟩ =
      Ord.compare (pad (max as.length bs.length) as) (pad (max as.length bs.length) bs) := by
    rw [compare, compareComponents_eq (Nat.le_trans (length_dropTrailingZeros_le as) hla)
      (Nat.le_trans (length_dropTrailingZeros_le bs) hlb), pad_dropTrailingZeros hla,
      pad_dropTrailingZeros hlb]
  have hsame : compare ⟨s, dropTrailingZeros as⟩ ⟨t, dropTrailingZeros bs⟩ = .eq ↔
      same ⟨s, dropTrailingZeros as⟩ ⟨t, dropTrailingZeros bs⟩ = true := by
    rw [hcompare, Std.LawfulEqCmp.compare_eq_iff_eq, ← dropTrailingZeros_eq_iff hla hlb, same,
      beq_iff_eq]
  refine ⟨⟨as, bs, hsa, hsb, hcompare⟩, le_refl _, ?_, le_trans, le_total _ _, compare_swap _ _,
    hsame, ?_, rfl, major_le_major⟩
  · intro hle hge
    exact hsame.mp (compare_eq_of_le_of_le hle hge)
  · rw [hashed_eq_iff hahash hbhash, same, beq_iff_eq]

/-- Two spellings of one version with different numbers of components, and
a later one. -/
theorem order_of_padded_versions :
    let a : Version := ⟨" +02 .0", [2]⟩
    let b : Version := ⟨"2.0.00", [2]⟩
    let c : Version := ⟨"2.0.10", [2, 0, 10]⟩
    parse " +02 .0" = .ok a ∧ parse "2.0.00" = .ok b ∧
      compare a b = .eq ∧ hashed a = hashed b ∧ le b c = true ∧ le a c = true := by
  intro a b c
  have ha : parse " +02 .0" = .ok a := by decide +kernel
  have hb : parse "2.0.00" = .ok b := by decide +kernel
  obtain ⟨-, -, -, htrans, -, -, hsame, hhash, -⟩ := compare_orders_spelled_numbers ha hb c
  have hab : same a b = true := by decide
  have hle : le a b = true := by simp [le, compare, compareComponents, a, b]
  have hlt : le b c = true := by simp +decide [le, compare, compareComponents, b, c]
  exact ⟨ha, hb, hsame.mpr hab, hhash.mp hab, hlt, htrans hle hlt⟩

end Version

end UploadHooks
