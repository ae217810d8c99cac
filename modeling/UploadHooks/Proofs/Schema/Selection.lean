import UploadHooks.Proofs.Version.Grammar
import UploadHooks.Schema.Selection

/-!
# Which definition is chosen

A definition is chosen by its place in the document. With a request that is
the first place whose version has the requested numbers (`AnswersAt`), and
without one the first of the places with the least version (`OldestAt`), or
the first place of all when no version can be read. Each of these is at most
one place, and the chosen definition is the one that stands there.

The two ways meet: no definition before the oldest has its numbers, since
that one would be as old and come first. A request for the numbers of the
default is therefore answered from the same place (`OldestAt.answersAt_iff`).
-/

namespace UploadHooks

namespace Schema

open Version (parse)

/-! ## Requests -/

/-- The definition's version is written and can be read. -/
def Definition.Has (d : Definition) (v : Version) : Prop :=
  ∃ text, d.version = some text ∧ parse text = .ok v

/-- The request can be read, and the definition's version has its numbers. -/
def Definition.Answers (d : Definition) (requested : String) : Prop :=
  ∃ v wanted, d.Has v ∧ parse requested = .ok wanted ∧ ∀ i, v.component i = wanted.component i

/-- The first definition that answers the request stands at that place. -/
structure AnswersAt (definitions : List Definition) (requested : String) (place : Nat)
    (d : Definition) : Prop where
  here : definitions[place]? = some d
  answers : d.Answers requested
  first : ∀ earlier e, earlier < place → definitions[earlier]? = some e → ¬ e.Answers requested

/-! ## The oldest definition -/

/-- The first definition of the least version stands at that place. -/
structure OldestAt (definitions : List Definition) (place : Nat) (d : Definition) (v : Version) :
    Prop where
  here : definitions[place]? = some d
  version : d.Has v
  least : ∀ e ∈ definitions, ∀ w, e.Has w → Version.le v w = true
  first : ∀ earlier e w, earlier < place → definitions[earlier]? = some e → e.Has w →
    Version.le w v = false

/-- The definition that is taken without a request stands at that place. -/
def DefaultAt (definitions : List Definition) (place : Nat) (d : Definition) : Prop :=
  (∃ v, OldestAt definitions place d v) ∨
    (∀ e ∈ definitions, ∀ w, ¬ e.Has w) ∧ place = 0 ∧ definitions.head? = some d

/-! ## Versions of definitions -/

section Has

variable {d : Definition} {v w : Version} {requested : String}

theorem parsedVersion?_eq_some_iff : d.parsedVersion? = some v ↔ d.Has v := by
  rw [Definition.parsedVersion?, Option.bind_eq_some_iff]
  simp only [toOption_eq_some_iff, Definition.Has]

theorem parsedVersion?_eq_none_iff : d.parsedVersion? = none ↔ ∀ v, ¬ d.Has v := by
  simp only [← parsedVersion?_eq_some_iff, Option.eq_none_iff_forall_ne_some]

theorem Definition.Has.unique (hv : d.Has v) (hw : d.Has w) : v = w :=
  Option.some.inj ((parsedVersion?_eq_some_iff.mpr hv).symm.trans
    (parsedVersion?_eq_some_iff.mpr hw))

theorem Definition.Has.last (h : d.Has v) : v.components.getLast? ≠ some 0 := by
  obtain ⟨text, -, hparse⟩ := h
  exact (Version.parse_eq_ok_iff_hasNumbers.mp hparse).2.1

theorem Definition.Answers.readable (h : d.Answers requested) :
    ∃ wanted, parse requested = .ok wanted := by
  obtain ⟨v, wanted, -, hwanted, -⟩ := h
  exact ⟨wanted, hwanted⟩

theorem answers_iff {wanted : Version} (hwanted : parse requested = .ok wanted) :
    d.Answers requested ↔ d.answers wanted = true := by
  have hlast := (Version.parse_eq_ok_iff_hasNumbers.mp hwanted).2.1
  constructor
  · rintro ⟨v, w, hv, hw, hnumbers⟩
    obtain rfl := Except.ok.inj (hw.symm.trans hwanted)
    rw [Definition.answers, parsedVersion?_eq_some_iff.mpr hv]
    exact (Version.same_iff_component hv.last hlast).mpr hnumbers
  · intro h
    rw [Definition.answers] at h
    split at h
    · next v hv =>
      have hhas := parsedVersion?_eq_some_iff.mp hv
      exact ⟨v, wanted, hhas, hwanted, (Version.same_iff_component hhas.last hlast).mp h⟩
    · cases h

end Has

/-! ## Choosing on request -/

section Request

variable {definitions : List Definition} {requested : String} {place place' : Nat}
  {d d' : Definition}

theorem AnswersAt.place_unique (h : AnswersAt definitions requested place d)
    (h' : AnswersAt definitions requested place' d') : place = place' := by
  rcases Nat.lt_trichotomy place place' with hlt | heq | hgt
  · exact absurd h.answers (h'.first place d hlt h.here)
  · exact heq
  · exact absurd h'.answers (h.first place' d' hgt h'.here)

theorem findVersion?_eq_some_iff :
    findVersion? requested definitions = some d ↔
      ∃ place, AnswersAt definitions requested place d := by
  rw [findVersion?]
  cases hparse : parse requested with
  | error fault =>
      constructor
      · intro h
        cases h
      · rintro ⟨place, h⟩
        obtain ⟨wanted, hwanted⟩ := h.answers.readable
        rw [hparse] at hwanted
        cases hwanted
  | ok wanted =>
      simp only [List.find?_eq_some_iff_getElem]
      constructor
      · rintro ⟨hd, place, hplace, hhere, hfirst⟩
        refine ⟨place, List.getElem?_eq_some_iff.mpr ⟨hplace, hhere⟩, (answers_iff hparse).mpr hd,
          fun earlier e hlt he => ?_⟩
        obtain ⟨-, rfl⟩ := List.getElem?_eq_some_iff.mp he
        simpa [answers_iff hparse] using hfirst earlier hlt
      · rintro ⟨place, h⟩
        obtain ⟨hplace, hhere⟩ := List.getElem?_eq_some_iff.mp h.here
        refine ⟨(answers_iff hparse).mp h.answers, place, hplace, hhere, fun earlier hlt => ?_⟩
        have hnot := h.first earlier _ hlt (List.getElem?_eq_getElem (hlt.trans hplace))
        simpa [answers_iff hparse] using hnot

theorem findVersion?_eq_none_iff :
    findVersion? requested definitions = none ↔ ∀ d ∈ definitions, ¬ d.Answers requested := by
  rw [findVersion?]
  cases hparse : parse requested with
  | error fault =>
      refine iff_of_true rfl fun d _ h => ?_
      obtain ⟨wanted, hwanted⟩ := h.readable
      rw [hparse] at hwanted
      cases hwanted
  | ok wanted => simp [answers_iff hparse]

end Request

/-! ## Choosing without a request -/

section Oldest

variable {definitions rest : List Definition} {place place' : Nat} {d d' e : Definition}
  {v v' : Version}

theorem OldestAt.place_unique (h : OldestAt definitions place d v)
    (h' : OldestAt definitions place' d' v') : place = place' := by
  rcases Nat.lt_trichotomy place place' with hlt | heq | hgt
  · have hle := h.least d' (List.mem_of_getElem? h'.here) v' h'.version
    rw [h'.first place d v hlt h.here h.version] at hle
    cases hle
  · exact heq
  · have hle := h'.least d (List.mem_of_getElem? h.here) v h.version
    rw [h.first place' d' v' hgt h'.here h'.version] at hle
    cases hle

theorem OldestAt.unique (h : OldestAt definitions place d v)
    (h' : OldestAt definitions place' d' v') : d = d' ∧ v = v' := by
  obtain rfl := h.place_unique h'
  obtain rfl := Option.some.inj (h.here.symm.trans h'.here)
  exact ⟨rfl, h.version.unique h'.version⟩

/-- A definition that is not older in front changes the place only. -/
theorem OldestAt.cons (h : OldestAt rest place d v)
    (hfront : ∀ w, e.Has w → Version.le v w = true ∧ Version.le w v = false) :
    OldestAt (e :: rest) (place + 1) d v := by
  refine ⟨h.here, h.version, ?_, ?_⟩
  · intro e' he' w hw
    rcases List.mem_cons.mp he' with rfl | he'
    · exact (hfront w hw).1
    · exact h.least e' he' w hw
  · intro earlier e' w hlt he' hw
    cases earlier with
    | zero =>
        obtain rfl := Option.some.inj he'
        exact (hfront w hw).2
    | succ earlier => exact h.first earlier e' w (Nat.lt_of_succ_lt_succ hlt) he' hw

/-- A definition in front is the oldest one if no later one is older. -/
theorem OldestAt.head (hversion : d.Has v)
    (hrest : ∀ e ∈ rest, ∀ w, e.Has w → Version.le v w = true) :
    OldestAt (d :: rest) 0 d v := by
  refine ⟨rfl, hversion, ?_, fun earlier _ _ hlt => absurd hlt (Nat.not_lt_zero earlier)⟩
  intro e he w hw
  rcases List.mem_cons.mp he with rfl | he
  · obtain rfl := hversion.unique hw
    exact Version.le_refl v
  · exact hrest e he w hw

/-- The search finds nothing exactly if no version can be read, and else
the oldest definition. One that comes later in the list only counts if it
is older than all before it. -/
theorem oldest?_spec (definitions : List Definition) :
    (oldest? definitions = none ∧ ∀ e ∈ definitions, ∀ w, ¬ e.Has w) ∨
      ∃ place d v, oldest? definitions = some (v, d) ∧ OldestAt definitions place d v := by
  induction definitions with
  | nil => exact .inl ⟨rfl, List.forall_mem_nil _⟩
  | cons d rest ih =>
      rw [oldest?]
      cases hd : d.parsedVersion? with
      | none =>
          have hnone := parsedVersion?_eq_none_iff.mp hd
          rcases ih with ⟨hrest, hall⟩ | ⟨place, e, w, hrest, hplace⟩
          · exact .inl ⟨hrest, List.forall_mem_cons.mpr ⟨hnone, hall⟩⟩
          · exact .inr ⟨place + 1, e, w, hrest, hplace.cons fun u hu => absurd hu (hnone u)⟩
      | some v =>
          have hversion := parsedVersion?_eq_some_iff.mp hd
          rcases ih with ⟨hrest, hall⟩ | ⟨place, e, w, hrest, hplace⟩
          · rw [hrest]
            exact .inr ⟨0, d, v, rfl, .head hversion fun e he u hu => absurd hu (hall e he u)⟩
          · rw [hrest]
            simp only
            by_cases hlt : Version.compare w v = .lt
            · rw [if_pos hlt]
              refine .inr ⟨place + 1, e, w, rfl, hplace.cons fun u hu => ?_⟩
              obtain rfl := hversion.unique hu
              rw [Version.le, Version.le, Version.compare_swap w v, hlt]
              exact ⟨rfl, rfl⟩
            · rw [if_neg hlt]
              have hle : Version.le v w = true := by
                rw [Version.le, Version.compare_swap w v]
                cases hcompare : Version.compare w v with
                | lt => exact absurd hcompare hlt
                | eq => rfl
                | gt => rfl
              exact .inr ⟨0, d, v, rfl, .head hversion fun e' he' u hu =>
                Version.le_trans hle (hplace.least e' he' u hu)⟩

theorem defaultDefinition?_eq_some_iff :
    defaultDefinition? definitions = some d ↔ ∃ place, DefaultAt definitions place d := by
  rw [defaultDefinition?]
  rcases oldest?_spec definitions with ⟨hnone, hall⟩ | ⟨place, e, v, hsome, hplace⟩
  · rw [hnone]
    constructor
    · intro h
      exact ⟨0, .inr ⟨hall, rfl, h⟩⟩
    · rintro ⟨place, ⟨v, h⟩ | ⟨-, -, h⟩⟩
      · exact absurd h.version (hall d (List.mem_of_getElem? h.here) v)
      · exact h
  · rw [hsome]
    constructor
    · intro h
      obtain rfl := Option.some.inj h
      exact ⟨place, .inl ⟨v, hplace⟩⟩
    · rintro ⟨place', ⟨v', h⟩ | ⟨hall, -⟩⟩
      · exact congrArg some (hplace.unique h).1
      · exact absurd hplace.version (hall e (List.mem_of_getElem? hplace.here) v)

theorem defaultDefinition?_eq_none_iff :
    defaultDefinition? definitions = none ↔ definitions = [] := by
  rw [defaultDefinition?]
  rcases oldest?_spec definitions with ⟨hnone, -⟩ | ⟨place, e, v, hsome, hplace⟩
  · rw [hnone]
    exact List.head?_eq_none_iff
  · rw [hsome]
    refine iff_of_false (fun h => by cases h) ?_
    rintro rfl
    cases hplace.here

/-- Whoever asks for the numbers of the oldest definition gets it from its
own place. -/
theorem OldestAt.answersAt_iff (h : OldestAt definitions place d v) {requested : String}
    (hrequest : d.Answers requested) :
    AnswersAt definitions requested place' d' ↔ place' = place ∧ d' = d := by
  have hhere : AnswersAt definitions requested place d := by
    refine ⟨h.here, hrequest, fun earlier e hlt he hanswers => ?_⟩
    obtain ⟨v', wanted, hv', hwanted, hsame⟩ := hrequest
    obtain ⟨w, wanted', hw, hwanted', hsame'⟩ := hanswers
    obtain rfl := h.version.unique hv'
    obtain rfl := Except.ok.inj (hwanted.symm.trans hwanted')
    have hnumbers : Version.same w v = true :=
      (Version.same_iff_component hw.last hv'.last).mpr fun i => (hsame' i).trans (hsame i).symm
    have hle := Version.le_of_same hnumbers
    rw [h.first earlier e w hlt he hw] at hle
    cases hle
  constructor
  · intro h'
    obtain rfl := h'.place_unique hhere
    exact ⟨rfl, Option.some.inj (h'.here.symm.trans hhere.here)⟩
  · rintro ⟨rfl, rfl⟩
    exact hhere

end Oldest

/-! ## Both ways -/

theorem DefaultAt.answersAt_iff {definitions : List Definition} {place place' : Nat}
    {d d' : Definition} {requested : String} (h : DefaultAt definitions place d)
    (hrequest : d.Answers requested) :
    AnswersAt definitions requested place' d' ↔ place' = place ∧ d' = d := by
  rcases h with ⟨v, hplace⟩ | ⟨hall, -, hhead⟩
  · exact hplace.answersAt_iff hrequest
  · obtain ⟨v, -, hv, -⟩ := hrequest
    exact absurd hv (hall d (List.mem_of_mem_head? hhead) v)

theorem select_requested_eq_ok_iff {definitions : List Definition} {requested : String}
    {d : Definition} : Config.select (.versioned definitions) (some requested) = .ok d ↔
      ∃ place, AnswersAt definitions requested place d := by
  rw [← findVersion?_eq_some_iff, Config.select]
  cases findVersion? requested definitions <;> simp

theorem select_requested_eq_error_iff {definitions : List Definition} {requested : String}
    {fault : SelectionFault} :
    Config.select (.versioned definitions) (some requested) = .error fault ↔
      (∀ d ∈ definitions, ¬ d.Answers requested) ∧
        fault = .versionUnavailable requested (definitions.filterMap (·.version)) := by
  rw [← findVersion?_eq_none_iff, Config.select]
  cases findVersion? requested definitions with
  | none => simp [availableVersions, eq_comm]
  | some d => simp

/-- Among several definitions a request is answered by the first one whose
version can be read and has the requested numbers. If there is none, which
is always so if the request cannot be read, the fault carries the request
and every version that is written, in order. Without a request it is the
first one of the least version, or the first of all if no version can be
read, and only an empty list has none. A request for the numbers of that
version leads to the same place. A single definition is always chosen. -/
theorem select_first_answering_or_oldest (definitions : List Definition) :
    (∀ requested d, Config.select (.versioned definitions) (some requested) = .ok d ↔
      ∃ place, AnswersAt definitions requested place d) ∧
    (∀ requested fault,
      Config.select (.versioned definitions) (some requested) = .error fault ↔
        (∀ d ∈ definitions, ¬ d.Answers requested) ∧
          fault = .versionUnavailable requested (definitions.filterMap (·.version))) ∧
    (∀ requested, (∀ v, parse requested ≠ .ok v) →
      Config.select (.versioned definitions) (some requested) =
        .error (.versionUnavailable requested (definitions.filterMap (·.version)))) ∧
    (∀ d, Config.select (.versioned definitions) none = .ok d ↔
      ∃ place, DefaultAt definitions place d) ∧
    (∀ fault, Config.select (.versioned definitions) none = .error fault ↔
      definitions = [] ∧ fault = .noDefinitions) ∧
    (∀ place d requested, DefaultAt definitions place d → d.Answers requested →
      Config.select (.versioned definitions) (some requested) = .ok d ∧
        ∀ place' d', AnswersAt definitions requested place' d' ↔ place' = place ∧ d' = d) ∧
    (∀ d requested, Config.select (.single d) requested = .ok d) := by
  refine ⟨fun requested d => select_requested_eq_ok_iff,
    fun requested fault => select_requested_eq_error_iff, fun requested hunreadable => ?_,
    fun d => ?_, fun fault => ?_, fun place d requested hplace hrequest => ?_,
    fun d requested => ?_⟩
  · refine select_requested_eq_error_iff.mpr ⟨fun d _ hanswers => ?_, rfl⟩
    obtain ⟨wanted, hwanted⟩ := hanswers.readable
    exact hunreadable wanted hwanted
  · rw [← defaultDefinition?_eq_some_iff, Config.select]
    cases defaultDefinition? definitions <;> simp
  · rw [← defaultDefinition?_eq_none_iff, Config.select]
    cases defaultDefinition? definitions with
    | none => simp [eq_comm]
    | some d => simp
  · have hplaces {place' : Nat} {d' : Definition} :
        AnswersAt definitions requested place' d' ↔ place' = place ∧ d' = d :=
      hplace.answersAt_iff hrequest
    exact ⟨select_requested_eq_ok_iff.mpr ⟨place, hplaces.mpr ⟨rfl, rfl⟩⟩,
      fun place' d' => hplaces⟩
  · cases requested <;> rfl

end Schema

end UploadHooks
