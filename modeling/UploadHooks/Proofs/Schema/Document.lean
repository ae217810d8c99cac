import UploadHooks.Proofs.Json.Ordered
import UploadHooks.Schema.Document

/-!
# What documents mean

Which values are configurations, and which configuration each of them is,
said without readers: a member of an object is looked up by its name, and
an element of an array by its place. `Config.ofBytes` finds exactly these
meanings (`ofBytes_eq_ok_iff`).

The readers go through the members of an object one after the other and
fill the slots of a draft. `Filled` says what becomes of one slot, from
the values under its names (`valuesUnder`). As members are in order,
`Json.Value.Ordered`, there is one value for each name that can be looked
up and no other, so what is filled is what is looked up.
-/

namespace UploadHooks

namespace Schema

open Json (Value Decoded)
open Entries (get?)

variable {α : Type}

/-! ## Meaning -/

/-- The meaning of what may be left out. -/
inductive Optionally (Means : Value → α → Prop) (default : α) : Option Value → α → Prop
  | absent : Optionally Means default none default
  | present {v : Value} {a : α} : Means v a → Optionally Means default (some v) a

/-- What an object has under a name or under the one it had formerly; it
cannot have both. -/
inductive Under (members : List (String × Value)) (name formerly : String) : Option Value → Prop
  | neither : get? members name = none → get? members formerly = none →
      Under members name formerly none
  | current {v : Value} : get? members name = some v → get? members formerly = none →
      Under members name formerly (some v)
  | former {v : Value} : get? members name = none → get? members formerly = some v →
      Under members name formerly (some v)

inductive FlagMeans : Value → Bool → Prop
  | null : FlagMeans .null false
  | bool (b : Bool) : FlagMeans (.bool b) b
  | yes {s : String} : Text.lowerAscii (Text.trimText s) = "true" → FlagMeans (.string s) true
  | no {s : String} : Text.lowerAscii (Text.trimText s) = "false" → FlagMeans (.string s) false

inductive AllowedMeans : Value → Option (List String) → Prop
  | null : AllowedMeans .null none
  | texts (texts : List String) : AllowedMeans (.array (texts.map .string)) (some texts)

inductive DescriptionMeans : Value → String → Prop
  | null : DescriptionMeans .null ""
  | text (s : String) : DescriptionMeans (.string s) s

inductive VersionMeans : Value → Option String → Prop
  | null : VersionMeans .null none
  | text (s : String) : VersionMeans (.string s) (some s)

/-- A rule by the names of its parts or by their places. -/
inductive RuleMeans : Value → FieldRule → Prop
  | object {members : List (String × Value)} {rule : FieldRule} :
      Under members "field_name" "fieldname" (some (.string rule.field)) →
      Optionally FlagMeans false (get? members "required") rule.required →
      Optionally AllowedMeans none (get? members "allowed_values") rule.allowedValues →
      Optionally DescriptionMeans "" (get? members "description") rule.description →
      RuleMeans (.object members) rule
  | array {rest : List Value} {rule : FieldRule} : rest.length ≤ 3 →
      Optionally FlagMeans false rest[0]? rule.required →
      Optionally AllowedMeans none rest[1]? rule.allowedValues →
      Optionally DescriptionMeans "" rest[2]? rule.description →
      RuleMeans (.array (.string rule.field :: rest)) rule

inductive RulesMean : Value → List FieldRule → Prop
  | array {items : List Value} {rules : List FieldRule} :
      List.Forall₂ RuleMeans items rules → RulesMean (.array items) rules

inductive DefinitionMeans : Value → Definition → Prop
  | object {members : List (String × Value)} {version : Option Value} {d : Definition} :
      Under members "version" "schema_version" version →
      Optionally VersionMeans none version d.version →
      Optionally RulesMean [] (get? members "fields") d.rules →
      DefinitionMeans (.object members) d
  | array {items : List Value} {d : Definition} : items.length ≤ 2 →
      Optionally VersionMeans none items[0]? d.version →
      Optionally RulesMean [] items[1]? d.rules →
      DefinitionMeans (.array items) d

inductive DocumentMeans : Value → Config → Prop
  | versioned {items : List Value} {ds : List Definition} :
      List.Forall₂ DefinitionMeans items ds → DocumentMeans (.array items) (.versioned ds)
  | single {members : List (String × Value)} {v : Value} {d : Definition} :
      get? members "metadata_config" = some v → DefinitionMeans v d →
      DocumentMeans (.object members) (.single d)

/-! ## Which members count -/

theorem Under.not_both {members : List (String × Value)} {name formerly : String}
    {value : Option Value} (h : Under members name formerly value) :
    get? members name = none ∨ get? members formerly = none := by
  cases h with
  | neither hname _ => exact .inl hname
  | current _ hformerly => exact .inr hformerly
  | former hname _ => exact .inl hname

theorem Under.of_agree {members members' : List (String × Value)} {name formerly : String}
    {value : Option Value} (hname : get? members name = get? members' name)
    (hformerly : get? members formerly = get? members' formerly)
    (h : Under members name formerly value) : Under members' name formerly value := by
  cases h with
  | neither h₁ h₂ => exact .neither (hname ▸ h₁) (hformerly ▸ h₂)
  | current h₁ h₂ => exact .current (hname ▸ h₁) (hformerly ▸ h₂)
  | former h₁ h₂ => exact .former (hname ▸ h₁) (hformerly ▸ h₂)

/-- The names that a rule has for its parts. -/
def ruleNames : List String :=
  ["field_name", "fieldname", "required", "allowed_values", "description"]

def definitionNames : List String := ["version", "schema_version", "fields"]

theorem RuleMeans.of_agree {members members' : List (String × Value)} {rule : FieldRule}
    (hagree : ∀ name ∈ ruleNames, get? members name = get? members' name)
    (h : RuleMeans (.object members) rule) : RuleMeans (.object members') rule := by
  simp only [ruleNames, List.forall_mem_cons] at hagree
  obtain ⟨hname, hformerly, hrequired, hallowed, hdescription, -⟩ := hagree
  cases h with
  | object h₁ h₂ h₃ h₄ =>
      exact .object (h₁.of_agree hname hformerly) (hrequired ▸ h₂) (hallowed ▸ h₃)
        (hdescription ▸ h₄)

theorem DefinitionMeans.of_agree {members members' : List (String × Value)} {d : Definition}
    (hagree : ∀ name ∈ definitionNames, get? members name = get? members' name)
    (h : DefinitionMeans (.object members) d) : DefinitionMeans (.object members') d := by
  simp only [definitionNames, List.forall_mem_cons] at hagree
  obtain ⟨hname, hformerly, hrules, -⟩ := hagree
  cases h with
  | object h₁ h₂ h₃ => exact .object (h₁.of_agree hname hformerly) h₂ (hrules ▸ h₃)

/-! ## Readers of values -/

/-- The reader gives a value its meaning, and none to a value without. -/
def Reads (read : Value → Decoded α) (Means : Value → α → Prop) : Prop :=
  ∀ {v : Value} {a : α}, v.Ordered → (read v = .ok a ↔ Means v a)

theorem asText_eq_ok_iff {v : Value} {s : String} : v.asText = .ok s ↔ v = .string s := by
  cases v <;> simp [Value.asText]

theorem flagMeans_string_iff {s : String} {b : Bool} :
    FlagMeans (.string s) b ↔
      Text.lowerAscii (Text.trimText s) = if b then "true" else "false" := by
  constructor
  · intro h
    cases h with
    | yes h => exact h
    | no h => exact h
  · cases b with
    | true => exact .yes
    | false => exact .no

theorem flagOfText_eq_ok_iff {s : String} {b : Bool} :
    flagOfText s = .ok b ↔ FlagMeans (.string s) b := by
  rw [flagMeans_string_iff, flagOfText]
  generalize Text.lowerAscii (Text.trimText s) = word
  split
  · cases b <;> simp
  · cases b <;> simp
  · next hyes hno =>
    have hneither : word ≠ if b then "true" else "false" := by
      cases b with
      | true => exact hyes
      | false => exact hno
    simp [hneither]

theorem reads_flag : Reads readFlag FlagMeans := by
  intro v b _
  cases v with
  | null => exact ⟨fun h => by cases h; exact .null, fun h => by cases h; rfl⟩
  | bool b' => exact ⟨fun h => by cases h; exact .bool b, fun h => by cases h; rfl⟩
  | string s =>
      rw [readFlag]
      exact flagOfText_eq_ok_iff
  | number n => exact ⟨nofun, nofun⟩
  | array items => exact ⟨nofun, nofun⟩
  | object members => exact ⟨nofun, nofun⟩

theorem forall₂_asText_iff {items : List Value} {texts : List String} :
    List.Forall₂ (fun v s => v.asText = .ok s) items texts ↔ items = texts.map .string := by
  simp only [asText_eq_ok_iff]
  rw [← List.forall₂_eq_eq_eq, List.forall₂_map_right_iff]

theorem reads_allowed : Reads readAllowed AllowedMeans := by
  intro v allowed _
  cases v with
  | null => exact ⟨fun h => by cases h; exact .null, fun h => by cases h; rfl⟩
  | array items =>
      rw [readAllowed, Value.asOption, map_eq_ok_iff]
      · simp only [Value.asList, mapM_eq_ok_iff, forall₂_asText_iff]
        constructor
        · rintro ⟨texts, rfl, rfl⟩
          exact .texts texts
        · rintro ⟨⟩
          exact ⟨_, rfl, rfl⟩
      · nofun
  | bool b => exact ⟨nofun, nofun⟩
  | number n => exact ⟨nofun, nofun⟩
  | string s => exact ⟨nofun, nofun⟩
  | object members => exact ⟨nofun, nofun⟩

theorem reads_description : Reads readDescription DescriptionMeans := by
  intro v description _
  cases v with
  | null => exact ⟨fun h => by cases h; exact .null, fun h => by cases h; rfl⟩
  | string s => exact ⟨fun h => by cases h; exact .text s, fun h => by cases h; rfl⟩
  | bool b => exact ⟨nofun, nofun⟩
  | number n => exact ⟨nofun, nofun⟩
  | array items => exact ⟨nofun, nofun⟩
  | object members => exact ⟨nofun, nofun⟩

theorem reads_version : Reads readVersion VersionMeans := by
  intro v version _
  cases v with
  | null => exact ⟨fun h => by cases h; exact .null, fun h => by cases h; rfl⟩
  | string s => exact ⟨fun h => by cases h; exact .text s, fun h => by cases h; rfl⟩
  | bool b => exact ⟨nofun, nofun⟩
  | number n => exact ⟨nofun, nofun⟩
  | array items => exact ⟨nofun, nofun⟩
  | object members => exact ⟨nofun, nofun⟩

/-! ## Elements by their places -/

section Elements

variable {read : Value → Decoded α} {Means : Value → α → Prop} {default a : α}

theorem forall₂_congr_of_reads (h : Reads read Means) {items : List Value}
    (hitems : ∀ v ∈ items, v.Ordered) {as : List α} :
    List.Forall₂ (fun v a => read v = .ok a) items as ↔ List.Forall₂ Means items as := by
  induction items generalizing as with
  | nil => simp
  | cons v items ih =>
      obtain ⟨hv, hitems⟩ := List.forall_mem_cons.mp hitems
      simp only [List.forall₂_cons_left_iff, ih hitems, h hv]

theorem bind_element_eq_ok_iff {β : Type} {next : α × List Value → Decoded β} {b : β}
    {whole : String} {position : Nat} {v : Value} {rest : List Value} :
    Json.element read whole position (v :: rest) >>= next = .ok b ↔
      ∃ a, read v = .ok a ∧ next (a, rest) = .ok b := by
  rw [Json.element, bind_eq_ok_iff]
  simp [map_eq_ok_iff]

theorem bind_elementOr_eq_ok_iff (h : Reads read Means) {β : Type}
    {next : α × List Value → Decoded β} {b : β} {items : List Value}
    (hitems : (Value.array items).Ordered) :
    Json.elementOr read default items >>= next = .ok b ↔
      ∃ a, Optionally Means default items[0]? a ∧ next (a, items.drop 1) = .ok b := by
  cases items with
  | nil =>
      constructor
      · exact fun hnext => ⟨default, .absent, hnext⟩
      · rintro ⟨a, ⟨⟩, hnext⟩
        exact hnext
  | cons v items =>
      have hv : v.Ordered := Json.Value.ordered_array_iff.mp hitems v (List.mem_cons_self ..)
      rw [Json.elementOr, bind_eq_ok_iff]
      constructor
      · rintro ⟨r, hr, hnext⟩
        obtain ⟨a, ha, rfl⟩ := map_eq_ok_iff.mp hr
        exact ⟨a, .present ((h hv).mp ha), hnext⟩
      · rintro ⟨a, _ | hmeans, hnext⟩
        exact ⟨(a, items), map_eq_ok_iff.mpr ⟨a, (h hv).mpr hmeans, rfl⟩, hnext⟩

theorem bind_noMore_eq_ok_iff {β : Type} {next : Unit → Decoded β} {b : β} {total : Nat}
    {items : List Value} :
    Json.noMore total items >>= next = .ok b ↔ items = [] ∧ next () = .ok b := by
  cases items <;> simp [Json.noMore, bind, Except.bind]

end Elements

/-! ## Members by their names -/

/-- The values under any of the names. -/
def valuesUnder (names : List String) (members : List (String × Value)) : List Value :=
  members.filterMap fun p => if p.1 ∈ names then some p.2 else none

theorem valuesUnder_cons (names : List String) (p : String × Value)
    (members : List (String × Value)) :
    valuesUnder names (p :: members) =
      if p.1 ∈ names then p.2 :: valuesUnder names members else valuesUnder names members := by
  by_cases h : p.1 ∈ names <;> simp [valuesUnder, h]

theorem get?_cons_of_not_mem {names : List String} {p : String × Value} (h : p.1 ∉ names)
    (members : List (String × Value)) {name : String} (hname : name ∈ names) :
    get? (p :: members) name = get? members name := by
  have hne : name ≠ p.1 := fun heq => h (heq ▸ hname)
  rw [Entries.get?_cons, if_neg hne]

theorem valuesUnder_eq_nil_iff {names : List String} {members : List (String × Value)} :
    valuesUnder names members = [] ↔ ∀ name ∈ names, get? members name = none := by
  induction members with
  | nil => simp [valuesUnder]
  | cons p members ih =>
      by_cases hp : p.1 ∈ names
      · rw [valuesUnder_cons, if_pos hp]
        refine ⟨nofun, fun h => ?_⟩
        have hhead := h p.1 hp
        simp [Entries.get?_cons] at hhead
      · rw [valuesUnder_cons, if_neg hp, ih]
        refine forall₂_congr fun name hname => ?_
        rw [get?_cons_of_not_mem hp members hname]

/-- With members in order there is one value exactly if one of the names
can be looked up and no other can. -/
theorem valuesUnder_eq_singleton_iff {names : List String} {members : List (String × Value)}
    (h : Entries.Ascending members) {v : Value} :
    valuesUnder names members = [v] ↔ ∃ name ∈ names, get? members name = some v ∧
      ∀ other ∈ names, other ≠ name → get? members other = none := by
  induction members with
  | nil => simp [valuesUnder]
  | cons p members ih =>
      by_cases hp : p.1 ∈ names
      · rw [valuesUnder_cons, if_pos hp, List.cons.injEq, valuesUnder_eq_nil_iff]
        constructor
        · rintro ⟨rfl, hnone⟩
          refine ⟨p.1, hp, by simp [Entries.get?_cons], fun other hother hne => ?_⟩
          rw [Entries.get?_cons, if_neg hne, hnone other hother]
        · rintro ⟨name, hname, hget, hothers⟩
          have hpname : p.1 = name := Classical.byContradiction fun hne => by
            have hhead := hothers p.1 hp hne
            simp [Entries.get?_cons] at hhead
          subst hpname
          refine ⟨by simpa [Entries.get?_cons] using hget, fun other hother => ?_⟩
          by_cases hne : other = p.1
          · rw [hne]
            exact h.get?_head
          · have hother := hothers other hother hne
            rwa [Entries.get?_cons, if_neg hne] at hother
      · rw [valuesUnder_cons, if_neg hp, ih h.tail]
        refine exists_congr fun name => and_congr_right fun hname => ?_
        rw [get?_cons_of_not_mem hp members hname]
        refine and_congr_right fun _ => forall₂_congr fun other hother => ?_
        rw [get?_cons_of_not_mem hp members hother]

theorem valuesUnder_one {name : String} {members : List (String × Value)}
    (h : Entries.Ascending members) {slot : Option Value} :
    valuesUnder [name] members = slot.toList ↔ get? members name = slot := by
  cases slot with
  | none => simp [valuesUnder_eq_nil_iff]
  | some v => simp [valuesUnder_eq_singleton_iff h]

theorem valuesUnder_two {name formerly : String} {members : List (String × Value)}
    (h : Entries.Ascending members) (hne : name ≠ formerly) {slot : Option Value} :
    valuesUnder [name, formerly] members = slot.toList ↔ Under members name formerly slot := by
  cases slot with
  | none =>
      simp only [Option.toList_none, valuesUnder_eq_nil_iff, List.forall_mem_cons,
        List.not_mem_nil, false_implies, implies_true, and_true]
      exact ⟨fun ⟨h₁, h₂⟩ => .neither h₁ h₂, fun | .neither h₁ h₂ => ⟨h₁, h₂⟩⟩
  | some v =>
      simp only [Option.toList_some, valuesUnder_eq_singleton_iff h]
      constructor
      · rintro ⟨used, hused, hget, hothers⟩
        rcases List.mem_pair.mp hused with rfl | rfl
        · exact .current hget (hothers formerly (by simp) hne.symm)
        · exact .former (hothers name (by simp) hne) hget
      · rintro (_ | ⟨hget, hnone⟩ | ⟨hnone, hget⟩)
        · refine ⟨name, by simp, hget, fun other hother hother_ne => ?_⟩
          rcases List.mem_pair.mp hother with rfl | rfl
          · exact absurd rfl hother_ne
          · exact hnone
        · refine ⟨formerly, by simp, hget, fun other hother hother_ne => ?_⟩
          rcases List.mem_pair.mp hother with rfl | rfl
          · exact hnone
          · exact absurd rfl hother_ne

/-! ## Slots of a draft -/

/-- What becomes of a slot as the values that are for it come along. -/
inductive Filled (read : Value → Decoded α) : Option α → List Value → Option α → Prop
  | kept (slot : Option α) : Filled read slot [] slot
  | set {v : Value} {a : α} : read v = .ok a → Filled read none [v] (some a)

theorem filled_nil_iff {read : Value → Decoded α} {slot slot' : Option α} :
    Filled read slot [] slot' ↔ slot = slot' :=
  ⟨fun | .kept _ => rfl, fun h => h ▸ .kept slot⟩

theorem filled_cons_iff {read : Value → Decoded α} {slot slot' : Option α} {v : Value}
    {vs : List Value} :
    Filled read slot (v :: vs) slot' ↔
      ∃ a, slot = none ∧ read v = .ok a ∧ Filled read (some a) vs slot' := by
  constructor
  · rintro ⟨⟩
    next a ha => exact ⟨a, rfl, ha, .kept _⟩
  · rintro ⟨a, rfl, ha, ⟨⟩⟩
    exact .set ha

/-- Going on from a slot that has been set. -/
theorem bind_setOnce_eq_ok_iff {β γ : Type} {name : String} {slot : Option α} {value : Decoded α}
    {update : Option α → β} {next : β → Decoded γ} {c : γ} :
    (Json.setOnce name slot value).map update >>= next = .ok c ↔
      ∃ a, slot = none ∧ value = .ok a ∧ next (update (some a)) = .ok c := by
  cases slot with
  | none => simp [Json.setOnce, bind_eq_ok_iff, map_eq_ok_iff]
  | some a => simp [Json.setOnce, bind_eq_ok_iff, map_eq_ok_iff]

/-- Each member fills the slot of its name, and the others keep what they
have. -/
theorem RuleDraft.foldlM_readMember_eq_ok_iff {members : List (String × Value)}
    {draft draft' : RuleDraft} :
    members.foldlM readMember draft = .ok draft' ↔
      Filled Value.asText draft.field (valuesUnder ["field_name", "fieldname"] members)
        draft'.field ∧
      Filled readFlag draft.required (valuesUnder ["required"] members) draft'.required ∧
      Filled readAllowed draft.allowedValues (valuesUnder ["allowed_values"] members)
        draft'.allowedValues ∧
      Filled readDescription draft.description (valuesUnder ["description"] members)
        draft'.description := by
  induction members generalizing draft with
  | nil =>
      cases draft
      cases draft'
      simp [valuesUnder, filled_nil_iff, pure, Except.pure]
  | cons p members ih =>
      obtain ⟨name, v⟩ := p
      rw [List.foldlM_cons, readMember]
      split
      · next hname =>
        rw [bind_setOnce_eq_ok_iff]
        grind [filled_cons_iff, valuesUnder_cons]
      · split
        · next hname =>
          rw [bind_setOnce_eq_ok_iff]
          grind [filled_cons_iff, valuesUnder_cons]
        · split
          · next hname =>
            rw [bind_setOnce_eq_ok_iff]
            grind [filled_cons_iff, valuesUnder_cons]
          · split
            · next hname =>
              rw [bind_setOnce_eq_ok_iff]
              grind [filled_cons_iff, valuesUnder_cons]
            · next =>
              rw [bind_eq_ok_iff]
              grind [filled_cons_iff, valuesUnder_cons]

theorem DefinitionDraft.foldlM_readMember_eq_ok_iff {members : List (String × Value)}
    {draft draft' : DefinitionDraft} :
    members.foldlM readMember draft = .ok draft' ↔
      Filled readVersion draft.version (valuesUnder ["version", "schema_version"] members)
        draft'.version ∧
      Filled readRules draft.rules (valuesUnder ["fields"] members) draft'.rules := by
  induction members generalizing draft with
  | nil =>
      cases draft
      cases draft'
      simp [valuesUnder, filled_nil_iff, pure, Except.pure]
  | cons p members ih =>
      obtain ⟨name, v⟩ := p
      rw [List.foldlM_cons, readMember]
      split
      · next hname =>
        rw [bind_setOnce_eq_ok_iff]
        grind [filled_cons_iff, valuesUnder_cons]
      · split
        · next hname =>
          rw [bind_setOnce_eq_ok_iff]
          grind [filled_cons_iff, valuesUnder_cons]
        · next =>
          rw [bind_eq_ok_iff]
          grind [filled_cons_iff, valuesUnder_cons]

/-! ## Completed slots -/

section Completed

variable {read : Value → Decoded α} {Means : Value → α → Prop} {default a : α}

theorem filled_some_iff {vs : List Value} :
    Filled read none vs (some a) ↔ ∃ v, vs = [v] ∧ read v = .ok a := by
  constructor
  · rintro ⟨⟩
    next v ha => exact ⟨v, rfl, ha⟩
  · rintro ⟨v, rfl, ha⟩
    exact .set ha

/-- A slot takes one value at the most. -/
theorem Filled.exists_toList {vs : List Value} {slot : Option α} (h : Filled read none vs slot) :
    ∃ value : Option Value, vs = value.toList := by
  cases h with
  | kept _ => exact ⟨none, rfl⟩
  | set _ => exact ⟨some _, rfl⟩

/-- A slot that starts out empty and is completed with a default has the
meaning of its value. -/
theorem optionally_iff_filled (h : Reads read Means) {value : Option Value}
    (hvalue : ∀ v, value = some v → v.Ordered) :
    Optionally Means default value a ↔
      ∃ slot, Filled read none value.toList slot ∧ slot.getD default = a := by
  constructor
  · rintro (_ | hmeans)
    · exact ⟨none, .kept none, rfl⟩
    · exact ⟨some a, .set ((h (hvalue _ rfl)).mpr hmeans), rfl⟩
  · rintro ⟨slot, hfilled, rfl⟩
    cases value with
    | none =>
        cases hfilled
        exact .absent
    | some v =>
        cases hfilled with
        | set ha => exact .present ((h (hvalue v rfl)).mp ha)

variable {members : List (String × Value)} (hmembers : (Value.object members).Ordered)
include hmembers

theorem optionally_get?_iff (h : Reads read Means) {name : String} :
    Optionally Means default (get? members name) a ↔
      ∃ slot, Filled read none (valuesUnder [name] members) slot ∧ slot.getD default = a := by
  have hasc := (Json.Value.ordered_object_iff.mp hmembers).1
  rw [optionally_iff_filled h fun v => hmembers.get?, (valuesUnder_one hasc).mpr rfl]

theorem optionally_under_iff (h : Reads read Means) {name formerly : String}
    (hne : name ≠ formerly) :
    (∃ value, Under members name formerly value ∧ Optionally Means default value a) ↔
      ∃ slot, Filled read none (valuesUnder [name, formerly] members) slot ∧
        slot.getD default = a := by
  have hasc := (Json.Value.ordered_object_iff.mp hmembers).1
  have hvalue : ∀ {value : Option Value}, Under members name formerly value →
      ∀ v, value = some v → v.Ordered := by
    rintro _ (_ | ⟨hget, -⟩ | ⟨-, hget⟩) v ⟨⟩
    · exact hmembers.get? hget
    · exact hmembers.get? hget
  constructor
  · rintro ⟨value, hunder, hmeans⟩
    rw [(valuesUnder_two hasc hne).mpr hunder]
    exact (optionally_iff_filled h (hvalue hunder)).mp hmeans
  · rintro ⟨slot, hfilled, hslot⟩
    obtain ⟨value, hvs⟩ := hfilled.exists_toList
    have hunder := (valuesUnder_two hasc hne).mp hvs
    rw [hvs] at hfilled
    exact ⟨value, hunder, (optionally_iff_filled h (hvalue hunder)).mpr ⟨slot, hfilled, hslot⟩⟩

end Completed

/-! ## Rules -/

theorem filled_field_iff {members : List (String × Value)} (h : Entries.Ascending members)
    {field : String} :
    Filled Value.asText none (valuesUnder ["field_name", "fieldname"] members) (some field) ↔
      Under members "field_name" "fieldname" (some (.string field)) := by
  rw [← valuesUnder_two h (by decide), filled_some_iff]
  simp [asText_eq_ok_iff]

theorem RuleDraft.complete_eq_ok_iff {draft : RuleDraft} {rule : FieldRule} :
    draft.complete = .ok rule ↔ draft.field = some rule.field ∧
      draft.required.getD false = rule.required ∧
      draft.allowedValues.getD none = rule.allowedValues ∧
      draft.description.getD "" = rule.description := by
  obtain ⟨field, required, allowed, description⟩ := draft
  cases rule
  cases field with
  | none => simp [complete, Json.required, Except.map]
  | some field => simp [complete, Json.required, Except.map]

theorem readRule_object {members : List (String × Value)} {rule : FieldRule}
    (h : (Value.object members).Ordered) :
    readRule (.object members) = .ok rule ↔ RuleMeans (.object members) rule := by
  obtain ⟨hasc, -⟩ := Json.Value.ordered_object_iff.mp h
  have hbind : readRule (.object members) =
      members.foldlM RuleDraft.readMember RuleDraft.blank >>= RuleDraft.complete := rfl
  rw [hbind, bind_eq_ok_iff]
  simp only [RuleDraft.foldlM_readMember_eq_ok_iff, RuleDraft.complete_eq_ok_iff]
  constructor
  · rintro ⟨draft, ⟨hfield, hrequired, hallowed, hdescription⟩, hname, hrule⟩
    rw [hname] at hfield
    exact .object ((filled_field_iff hasc).mp hfield)
      ((optionally_get?_iff h reads_flag).mpr ⟨_, hrequired, hrule.1⟩)
      ((optionally_get?_iff h reads_allowed).mpr ⟨_, hallowed, hrule.2.1⟩)
      ((optionally_get?_iff h reads_description).mpr ⟨_, hdescription, hrule.2.2⟩)
  · rintro (⟨hfield, hrequired, hallowed, hdescription⟩ | _)
    obtain ⟨required, hrequired⟩ := (optionally_get?_iff h reads_flag).mp hrequired
    obtain ⟨allowed, hallowed⟩ := (optionally_get?_iff h reads_allowed).mp hallowed
    obtain ⟨description, hdescription⟩ := (optionally_get?_iff h reads_description).mp hdescription
    exact ⟨⟨some rule.field, required, allowed, description⟩,
      ⟨(filled_field_iff hasc).mpr hfield, hrequired.1, hallowed.1, hdescription.1⟩,
      rfl, hrequired.2, hallowed.2, hdescription.2⟩

theorem readRule_array {items : List Value} {rule : FieldRule}
    (h : (Value.array items).Ordered) :
    readRule (.array items) = .ok rule ↔ RuleMeans (.array items) rule := by
  rw [readRule, readRuleElements]
  cases items with
  | nil => exact ⟨nofun, nofun⟩
  | cons v rest =>
      have hrest : (Value.array rest).Ordered := h.drop 1
      have hrest₁ := hrest.drop 1
      have hrest₂ := hrest₁.drop 1
      constructor
      · intro hread
        obtain ⟨field, hfield, hread⟩ := bind_element_eq_ok_iff.mp hread
        obtain ⟨required, hrequired, hread⟩ :=
          (bind_elementOr_eq_ok_iff reads_flag hrest).mp hread
        obtain ⟨allowed, hallowed, hread⟩ :=
          (bind_elementOr_eq_ok_iff reads_allowed hrest₁).mp hread
        obtain ⟨description, hdescription, hread⟩ :=
          (bind_elementOr_eq_ok_iff reads_description hrest₂).mp hread
        obtain ⟨hend, hrule⟩ := bind_noMore_eq_ok_iff.mp hread
        cases hrule
        obtain rfl := asText_eq_ok_iff.mp hfield
        refine @RuleMeans.array rest ⟨field, required, allowed, description⟩ ?_ hrequired ?_ ?_
        · simpa using hend
        · simpa using hallowed
        · simpa using hdescription
      · rintro (_ | ⟨hend, hrequired, hallowed, hdescription⟩)
        refine bind_element_eq_ok_iff.mpr ⟨_, rfl, ?_⟩
        refine (bind_elementOr_eq_ok_iff reads_flag hrest).mpr ⟨_, hrequired, ?_⟩
        refine (bind_elementOr_eq_ok_iff reads_allowed hrest₁).mpr ⟨_, by simpa using hallowed, ?_⟩
        refine (bind_elementOr_eq_ok_iff reads_description hrest₂).mpr
          ⟨_, by simpa using hdescription, ?_⟩
        refine bind_noMore_eq_ok_iff.mpr ⟨?_, rfl⟩
        simpa using hend

theorem reads_rule : Reads readRule RuleMeans := by
  intro v rule h
  cases v with
  | object members => exact readRule_object h
  | array items => exact readRule_array h
  | null => exact ⟨nofun, nofun⟩
  | bool b => exact ⟨nofun, nofun⟩
  | number n => exact ⟨nofun, nofun⟩
  | string s => exact ⟨nofun, nofun⟩

theorem reads_rules : Reads readRules RulesMean := by
  intro v rules h
  cases v with
  | array items =>
      rw [readRules, Value.asList, mapM_eq_ok_iff,
        forall₂_congr_of_reads reads_rule (Json.Value.ordered_array_iff.mp h)]
      exact ⟨.array, fun | .array h => h⟩
  | null => exact ⟨nofun, nofun⟩
  | bool b => exact ⟨nofun, nofun⟩
  | number n => exact ⟨nofun, nofun⟩
  | string s => exact ⟨nofun, nofun⟩
  | object members => exact ⟨nofun, nofun⟩

/-! ## Definitions -/

theorem readDefinition_object {members : List (String × Value)} {d : Definition}
    (h : (Value.object members).Ordered) :
    readDefinition (.object members) = .ok d ↔ DefinitionMeans (.object members) d := by
  rw [readDefinition, map_eq_ok_iff]
  simp only [DefinitionDraft.foldlM_readMember_eq_ok_iff]
  constructor
  · rintro ⟨draft, ⟨hversion, hrules⟩, rfl⟩
    obtain ⟨version, hunder, hversion⟩ :=
      (optionally_under_iff h reads_version (by decide)).mpr ⟨_, hversion, rfl⟩
    exact .object hunder hversion ((optionally_get?_iff h reads_rules).mpr ⟨_, hrules, rfl⟩)
  · rintro (⟨hunder, hversion, hrules⟩ | _)
    obtain ⟨version, hversion, hv⟩ :=
      (optionally_under_iff h reads_version (by decide)).mp ⟨_, hunder, hversion⟩
    obtain ⟨rules, hrules, hr⟩ := (optionally_get?_iff h reads_rules).mp hrules
    refine ⟨⟨version, rules⟩, ⟨hversion, hrules⟩, ?_⟩
    rw [DefinitionDraft.complete, hv, hr]

theorem readDefinition_array {items : List Value} {d : Definition}
    (h : (Value.array items).Ordered) :
    readDefinition (.array items) = .ok d ↔ DefinitionMeans (.array items) d := by
  rw [readDefinition, readDefinitionElements]
  have h₁ := h.drop 1
  constructor
  · intro hread
    obtain ⟨version, hversion, hread⟩ := (bind_elementOr_eq_ok_iff reads_version h).mp hread
    obtain ⟨rules, hrules, hread⟩ := (bind_elementOr_eq_ok_iff reads_rules h₁).mp hread
    obtain ⟨hend, hd⟩ := bind_noMore_eq_ok_iff.mp hread
    cases hd
    refine @DefinitionMeans.array items ⟨version, rules⟩ ?_ hversion ?_
    · simpa using hend
    · simpa using hrules
  · rintro (_ | ⟨hend, hversion, hrules⟩)
    refine (bind_elementOr_eq_ok_iff reads_version h).mpr ⟨_, hversion, ?_⟩
    refine (bind_elementOr_eq_ok_iff reads_rules h₁).mpr ⟨_, by simpa using hrules, ?_⟩
    refine bind_noMore_eq_ok_iff.mpr ⟨?_, rfl⟩
    simpa using hend

theorem reads_definition : Reads readDefinition DefinitionMeans := by
  intro v d h
  cases v with
  | object members => exact readDefinition_object h
  | array items => exact readDefinition_array h
  | null => exact ⟨nofun, nofun⟩
  | bool b => exact ⟨nofun, nofun⟩
  | number n => exact ⟨nofun, nofun⟩
  | string s => exact ⟨nofun, nofun⟩

/-! ## Documents -/

theorem reads_document : Reads readDocument DocumentMeans := by
  intro v c h
  cases v with
  | array items =>
      rw [readDocument, map_eq_ok_iff]
      simp only [mapM_eq_ok_iff,
        forall₂_congr_of_reads reads_definition (Json.Value.ordered_array_iff.mp h)]
      constructor
      · rintro ⟨ds, hds, rfl⟩
        exact .versioned hds
      · rintro (hds | _)
        exact ⟨_, hds, rfl⟩
  | object members =>
      rw [readDocument, configMember]
      cases hget : get? members "metadata_config" with
      | none =>
          refine ⟨nofun, ?_⟩
          rintro (_ | ⟨hsome, _⟩)
          rw [hget] at hsome
          cases hsome
      | some v =>
          have hv : v.Ordered := h.get? hget
          simp only [map_eq_ok_iff, reads_definition hv]
          constructor
          · rintro ⟨d, hd, rfl⟩
            exact .single hget hd
          · rintro (_ | ⟨hsome, hd⟩)
            rw [hget] at hsome
            cases hsome
            exact ⟨_, hd, rfl⟩
  | null => exact ⟨nofun, nofun⟩
  | bool b => exact ⟨nofun, nofun⟩
  | number n => exact ⟨nofun, nofun⟩
  | string s => exact ⟨nofun, nofun⟩

/-- A document is accepted exactly if it is JSON and its value is a
configuration, which is then the result. -/
theorem Config.ofBytes_eq_ok_iff (bytes : List UInt8) (c : Config) :
    Config.ofBytes bytes = .ok c ↔ ∃ v, Value.ofBytes bytes = .ok v ∧ DocumentMeans v c := by
  rw [Config.ofBytes]
  cases hv : Value.ofBytes bytes with
  | error fault => exact ⟨nofun, fun ⟨_, h, _⟩ => by cases h⟩
  | ok v =>
      have hreads : readDocument v = .ok c ↔ DocumentMeans v c :=
        reads_document (Json.Value.ordered_of_ofBytes hv)
      have hmap : (readDocument v).mapError DocumentFault.mismatch = .ok c ↔
          readDocument v = .ok c := by
        cases readDocument v <;> simp [Except.mapError]
      rw [hmap, hreads]
      simp

/-- Documents of the two shapes and no others are configurations, and each
is the one it means. Members with other names do not count, and an object
that names a part in both ways means nothing. -/
theorem Config.ofBytes_accepts_what_has_meaning (bytes : List UInt8) :
    (∀ c, Config.ofBytes bytes = .ok c ↔
      ∃ v, Value.ofBytes bytes = .ok v ∧ v.Ordered ∧ DocumentMeans v c) ∧
    (∀ members members' rule,
      (∀ name ∈ ruleNames, get? members name = get? members' name) →
      RuleMeans (.object members) rule → RuleMeans (.object members') rule) ∧
    (∀ members members' d,
      (∀ name ∈ definitionNames, get? members name = get? members' name) →
      DefinitionMeans (.object members) d → DefinitionMeans (.object members') d) ∧
    (∀ members, get? members "field_name" ≠ none → get? members "fieldname" ≠ none →
      ∀ rule, ¬ RuleMeans (.object members) rule) ∧
    (∀ members, get? members "version" ≠ none → get? members "schema_version" ≠ none →
      ∀ d, ¬ DefinitionMeans (.object members) d) := by
  refine ⟨fun c => ?_, fun _ _ _ => .of_agree, fun _ _ _ => .of_agree, ?_, ?_⟩
  · rw [Config.ofBytes_eq_ok_iff]
    refine exists_congr fun v => and_congr_right fun hv => ?_
    exact (and_iff_right (Json.Value.ordered_of_ofBytes hv)).symm
  · rintro members hname hformerly rule (⟨hunder, -, -, -⟩ | _)
    exact hunder.not_both.elim hname hformerly
  · rintro members hname hformerly d (⟨hunder, -, -⟩ | _)
    exact hunder.not_both.elim hname hformerly

end Schema

end UploadHooks
