import UploadHooks.Proofs.Hook.Interactions
import UploadHooks.Proofs.Json.RoundTrip

/-!
# How a hook completes

A hook ends in one of three ways, and its exit code says in which. Each
way is described by what it follows from, without a look at the hook:

- `Refused`: the environment lacks what the hook needs. The metadata has
  no part in that, so the same hooks are refused whatever they are called
  with.
- `Completes`: the hook has its configuration and its flow succeeds.
- `Fails`: it has its configuration, and metadata or flow come to a
  failure, with a message about an upload.

Every run is one of the three (`refused_or_completes_or_fails`), and each
determines the completion, so code and output follow in both directions.
The line of a failure is JSON that decodes to its id and its message and
has no line break but the one behind it (`failureLine_eq`).
-/

namespace UploadHooks

namespace Hook

open Status (Client Settings)

/-! ## Exit codes -/

theorem Exit.code_eq_two_iff (exit : Exit) : exit.code = 2 ↔ exit = .misconfigured := by
  cases exit <;> decide

theorem Exit.code_eq_zero_iff (exit : Exit) : exit.code = 0 ↔ exit = .done := by
  cases exit <;> decide

theorem Exit.code_eq_one_iff (exit : Exit) : exit.code = 1 ↔ exit = .failed := by
  cases exit <;> decide

theorem Exit.code_trichotomy (exit : Exit) : exit.code = 0 ∨ exit.code = 1 ∨ exit.code = 2 := by
  cases exit <;> decide

/-! ## The line of a failure -/

/-- The object of a failure, without the line feed. -/
def failureText (uploadId message : String) : String :=
  Json.pairsText [("upload_id", uploadId), ("message", message)]

theorem failureLine_eq (uploadId message : String) :
    failureLine uploadId message = failureText uploadId message ++ "\n" := by
  rw [failureLine, String.ofList_append]
  rfl

/-- What is printed decodes to the id and the message, whatever characters
they are made of. -/
theorem ofText_failureText (uploadId message : String) :
    Json.Value.ofText (failureText uploadId message) =
      .ok (.object [("message", .string message), ("upload_id", .string uploadId)]) := by
  have hlt : "message" < "upload_id" := by decide
  rw [failureText, Json.ofText_pairsText]
  simp [Entries.ofPairs, Entries.insert, Entries.mapValues, hlt]

/-! ## Configuration -/

/-- The environment does not hold the configuration that a hook needs. -/
def Refused (env : Environment) : Invocation → Prop
  | .preCreate _ _ =>
    (∃ fault, SchemaSource.ofEnvironment env = .error fault) ∨
    (∃ source fault, SchemaSource.ofEnvironment env = .ok source ∧ source.usable = .error fault) ∨
    ∃ fault, Settings.ofEnvironment env = .error fault ∧ fault ≠ .missingUrl
  | .postCreate _ _ => ∃ fault, Settings.ofEnvironment env = .error fault
  | .postFinish _ => ∃ fault, Settings.ofEnvironment env = .error fault

/-- Where rejections are reported: to the configured service, or nowhere if
its address is not set. -/
inductive ReportsTo (env : Environment) : Option Client → Prop
  | service {settings : Settings} : Settings.ofEnvironment env = .ok settings →
      ReportsTo env (some ⟨settings.base, settings.policy⟩)
  | nowhere : Settings.ofEnvironment env = .error .missingUrl → ReportsTo env none

theorem schemaStore_eq_error_iff {surroundings : Surroundings} {env : Environment} :
    (∃ fault, schemaStore surroundings env = .error fault) ↔
      (∃ fault, SchemaSource.ofEnvironment env = .error fault) ∨
      ∃ source fault, SchemaSource.ofEnvironment env = .ok source ∧
        source.usable = .error fault := by
  rw [schemaStore]
  cases hs : SchemaSource.ofEnvironment env with
  | error fault => simp [bind, Except.bind]
  | ok source =>
      cases hu : source.usable with
      | error fault => simp [bind, Except.bind, hu]
      | ok done => simp [bind, Except.bind, hu, pure, Except.pure]

/-- Reporting goes somewhere or nowhere, or its configuration is faulty. -/
theorem reportsTo_or_faulty (env : Environment) : (∃ reporter, ReportsTo env reporter) ∨
    ∃ fault, Settings.ofEnvironment env = .error fault ∧ fault ≠ .missingUrl := by
  cases hs : Settings.ofEnvironment env with
  | ok settings => exact .inl ⟨_, .service hs⟩
  | error fault =>
      by_cases hmissing : fault = .missingUrl
      · subst hmissing
        exact .inl ⟨none, .nowhere hs⟩
      · exact .inr ⟨fault, rfl, hmissing⟩

theorem run_optionalClient_of_reportsTo {env : Environment} {reporter : Option Client}
    (h : ReportsTo env reporter) (script : Http.Script) :
    ((optionalClient env).run script).value = .ok reporter ∧
      ((optionalClient env).run script).rest = script := by
  cases h with
  | service h => rw [optionalClient, h]; exact ⟨rfl, rfl⟩
  | nowhere h => rw [optionalClient, h]; exact ⟨rfl, rfl⟩

theorem optionalClient_of_faulty {env : Environment} {fault : Settings.Fault}
    (h : Settings.ofEnvironment env = .error fault) (hfault : fault ≠ .missingUrl) :
    optionalClient env = pure (.error (.status fault)) := by
  rw [optionalClient, h]
  cases fault with
  | missingUrl => exact absurd rfl hfault
  | invalidUrl name cause => rfl
  | invalidValue name cause => rfl

/-! ## Three ways to end -/

section Ways

variable (surroundings : Surroundings) (env : Environment) (freshId : String)
variable (script : Http.Script)

/-- The hook has its configuration, and its flow succeeds. -/
inductive Completes : Invocation → Prop
  | accepted {metadata : String} {uploadId : Option String} {store : Schema.Store}
      {reporter : Option Client} {m : Metadata} :
      schemaStore surroundings env = .ok store → ReportsTo env reporter →
      Metadata.ofJson metadata = .ok m →
      ((Verification.verify store reporter (uploadId.getD freshId) m).run script).value = .ok () →
      Completes (.preCreate metadata uploadId)
  | opened {uploadId metadata : String} {settings : Settings} {m : Metadata}
      {trace : UploadTrace} :
      Settings.ofEnvironment env = .ok settings → Metadata.ofJson metadata = .ok m →
      ((Lifecycle.postCreate (clientOf settings) uploadId m).run script).value = .ok trace →
      Completes (.postCreate uploadId metadata)
  | closed {uploadId : String} {settings : Settings} {span : TraceSpan} :
      Settings.ofEnvironment env = .ok settings →
      ((Lifecycle.postFinish (clientOf settings) uploadId).run script).value = .ok span →
      Completes (.postFinish uploadId)

/-- The hook has its configuration, and fails with a message about an
upload: metadata is malformed or rejected, or the flow does not get
through. -/
inductive Fails : Invocation → String → String → Prop
  | malformed {metadata : String} {uploadId : Option String} {store : Schema.Store}
      {reporter : Option Client} {fault : Metadata.Fault} :
      schemaStore surroundings env = .ok store → ReportsTo env reporter →
      Metadata.ofJson metadata = .error fault →
      Fails (.preCreate metadata uploadId) (uploadId.getD freshId) (malformedMessage fault)
  | rejected {metadata : String} {uploadId : Option String} {store : Schema.Store}
      {reporter : Option Client} {m : Metadata} {rejection : Verification.Rejection} :
      schemaStore surroundings env = .ok store → ReportsTo env reporter →
      Metadata.ofJson metadata = .ok m →
      ((Verification.verify store reporter (uploadId.getD freshId) m).run script).value =
        .error rejection →
      Fails (.preCreate metadata uploadId) (uploadId.getD freshId) rejection.message
  | unreadable {uploadId metadata : String} {settings : Settings} {fault : Metadata.Fault} :
      Settings.ofEnvironment env = .ok settings → Metadata.ofJson metadata = .error fault →
      Fails (.postCreate uploadId metadata) uploadId (malformedMessage fault)
  | notOpened {uploadId metadata : String} {settings : Settings} {m : Metadata}
      {fault : Lifecycle.Fault} :
      Settings.ofEnvironment env = .ok settings → Metadata.ofJson metadata = .ok m →
      ((Lifecycle.postCreate (clientOf settings) uploadId m).run script).value = .error fault →
      Fails (.postCreate uploadId metadata) uploadId fault.message
  | notClosed {uploadId : String} {settings : Settings} {fault : Lifecycle.Fault} :
      Settings.ofEnvironment env = .ok settings →
      ((Lifecycle.postFinish (clientOf settings) uploadId).run script).value = .error fault →
      Fails (.postFinish uploadId) uploadId fault.message

variable {surroundings env freshId script} {invocation : Invocation}

/-- There is no other way to end. -/
theorem refused_or_completes_or_fails : Refused env invocation ∨
    Completes surroundings env freshId script invocation ∨
    ∃ uploadId message, Fails surroundings env freshId script invocation uploadId message := by
  cases invocation with
  | preCreate metadata uploadId =>
      cases hstore : schemaStore surroundings env with
      | error fault =>
          rcases schemaStore_eq_error_iff.mp ⟨fault, hstore⟩ with h | h
          · exact .inl (.inl h)
          · exact .inl (.inr (.inl h))
      | ok store =>
          rcases reportsTo_or_faulty env with ⟨reporter, hreporter⟩ | h
          · refine .inr ?_
            cases hm : Metadata.ofJson metadata with
            | error fault => exact .inr ⟨_, _, .malformed hstore hreporter hm⟩
            | ok m =>
                cases hverify : ((Verification.verify store reporter (uploadId.getD freshId)
                    m).run script).value with
                | error rejection => exact .inr ⟨_, _, .rejected hstore hreporter hm hverify⟩
                | ok accepted => exact .inl (.accepted hstore hreporter hm hverify)
          · exact .inl (.inr (.inr h))
  | postCreate uploadId metadata =>
      cases hsettings : Settings.ofEnvironment env with
      | error fault => exact .inl ⟨fault, hsettings⟩
      | ok settings =>
          refine .inr ?_
          cases hm : Metadata.ofJson metadata with
          | error fault => exact .inr ⟨_, _, .unreadable hsettings hm⟩
          | ok m =>
              cases hopened : ((Lifecycle.postCreate (clientOf settings) uploadId m).run
                  script).value with
              | error fault => exact .inr ⟨_, _, .notOpened hsettings hm hopened⟩
              | ok trace => exact .inl (.opened hsettings hm hopened)
  | postFinish uploadId =>
      cases hsettings : Settings.ofEnvironment env with
      | error fault => exact .inl ⟨fault, hsettings⟩
      | ok settings =>
          refine .inr ?_
          cases hclosed :
              ((Lifecycle.postFinish (clientOf settings) uploadId).run script).value with
          | error fault => exact .inr ⟨_, _, .notClosed hsettings hclosed⟩
          | ok span => exact .inl (.closed hsettings hclosed)

/-! ## What each way prints -/

/-- With its configuration, verification is the hook on the services that
are configured. -/
theorem value_run_preCreate {metadata : String} {uploadId : Option String} {store : Schema.Store}
    {reporter : Option Client} (hstore : schemaStore surroundings env = .ok store)
    (hreporter : ReportsTo env reporter) :
    ((Invocation.run (.preCreate metadata uploadId) surroundings env freshId).run script).value =
      ((preCreate store reporter (uploadId.getD freshId) metadata).run script).value := by
  obtain ⟨hvalue, hrest⟩ := run_optionalClient_of_reportsTo hreporter script
  rw [Invocation.run, hstore, configured, Session.value_bind, hvalue, hrest, configured]

theorem completion_of_completes (h : Completes surroundings env freshId script invocation) :
    ((invocation.run surroundings env freshId).run script).value = .done := by
  cases h with
  | accepted hstore hreporter hm hverify =>
      rw [value_run_preCreate hstore hreporter, preCreate, hm, Session.value_bind, hverify]
      rfl
  | opened hsettings hm hopened =>
      rw [Invocation.run, requiredClient, hsettings, configured, postCreate, hm,
        Session.value_bind, hopened]
      rfl
  | closed hsettings hclosed =>
      rw [Invocation.run, requiredClient, hsettings, configured, postFinish,
        Session.value_bind, hclosed]
      rfl

theorem completion_of_fails {uploadId message : String}
    (h : Fails surroundings env freshId script invocation uploadId message) :
    ((invocation.run surroundings env freshId).run script).value = .failure uploadId message := by
  cases h with
  | malformed hstore hreporter hm =>
      rw [value_run_preCreate hstore hreporter, preCreate, hm]
      rfl
  | rejected hstore hreporter hm hverify =>
      rw [value_run_preCreate hstore hreporter, preCreate, hm, Session.value_bind, hverify]
      rfl
  | unreadable hsettings hm =>
      rw [Invocation.run, requiredClient, hsettings, configured, postCreate, hm]
      rfl
  | notOpened hsettings hm hopened =>
      rw [Invocation.run, requiredClient, hsettings, configured, postCreate, hm,
        Session.value_bind, hopened]
      rfl
  | notClosed hsettings hclosed =>
      rw [Invocation.run, requiredClient, hsettings, configured, postFinish,
        Session.value_bind, hclosed]
      rfl

/-- A refused hook has sent nothing. -/
theorem run_of_refused (h : Refused env invocation) :
    ((invocation.run surroundings env freshId).run script).value = .misconfigured ∧
    ((invocation.run surroundings env freshId).run script).attempts = [] ∧
    ((invocation.run surroundings env freshId).run script).fetches = [] := by
  cases invocation with
  | preCreate metadata uploadId =>
      cases hstore : schemaStore surroundings env with
      | error fault =>
          rw [Invocation.run, hstore]
          exact ⟨rfl, rfl, rfl⟩
      | ok store =>
          have hnone : ¬ ∃ fault, schemaStore surroundings env = .error fault := by simp [hstore]
          rw [schemaStore_eq_error_iff] at hnone
          obtain ⟨fault, hfault, hmissing⟩ :=
            (h.resolve_left fun h => hnone (.inl h)).resolve_left fun h => hnone (.inr h)
          rw [Invocation.run, hstore, configured, optionalClient_of_faulty hfault hmissing]
          exact ⟨rfl, rfl, rfl⟩
  | postCreate uploadId metadata =>
      obtain ⟨fault, hfault⟩ := h
      rw [Invocation.run, requiredClient, hfault]
      exact ⟨rfl, rfl, rfl⟩
  | postFinish uploadId =>
      obtain ⟨fault, hfault⟩ := h
      rw [Invocation.run, requiredClient, hfault]
      exact ⟨rfl, rfl, rfl⟩

/-! ## From the exit code back -/

theorem exit_eq_misconfigured_iff :
    ((invocation.run surroundings env freshId).run script).value.exit = .misconfigured ↔
      Refused env invocation := by
  refine ⟨fun hexit => ?_, fun h => by rw [(run_of_refused h).1]; rfl⟩
  rcases refused_or_completes_or_fails with h | h | ⟨uploadId, message, h⟩
  · exact h
  · rw [completion_of_completes h] at hexit
    cases hexit
  · rw [completion_of_fails h] at hexit
    cases hexit

theorem exit_eq_done_iff :
    ((invocation.run surroundings env freshId).run script).value.exit = .done ↔
      Completes surroundings env freshId script invocation := by
  refine ⟨fun hexit => ?_, fun h => by rw [completion_of_completes h]; rfl⟩
  rcases refused_or_completes_or_fails with h | h | ⟨uploadId, message, h⟩
  · rw [(run_of_refused h).1] at hexit
    cases hexit
  · exact h
  · rw [completion_of_fails h] at hexit
    cases hexit

theorem exit_eq_failed_iff :
    ((invocation.run surroundings env freshId).run script).value.exit = .failed ↔
      ∃ uploadId message, Fails surroundings env freshId script invocation uploadId message := by
  refine ⟨fun hexit => ?_, fun ⟨_, _, h⟩ => by rw [completion_of_fails h]; rfl⟩
  rcases refused_or_completes_or_fails with h | h | h
  · rw [(run_of_refused h).1] at hexit
    cases hexit
  · rw [completion_of_completes h] at hexit
    cases hexit
  · exact h

end Ways

/-- The upload id that a hook is called with, if it is. -/
def Invocation.uploadId? : Invocation → Option String
  | .preCreate _ uploadId => uploadId
  | .postCreate uploadId _ => some uploadId
  | .postFinish uploadId => some uploadId

theorem Fails.uploadId_eq {surroundings : Surroundings} {env : Environment} {freshId : String}
    {script : Http.Script} {invocation : Invocation} {uploadId message given : String}
    (h : Fails surroundings env freshId script invocation uploadId message)
    (hgiven : invocation.uploadId? = some given) : uploadId = given := by
  cases h with
  | malformed _ _ _ => simp_all [Invocation.uploadId?]
  | rejected _ _ _ _ => simp_all [Invocation.uploadId?]
  | unreadable _ _ => exact Option.some.inj hgiven
  | notOpened _ _ _ => exact Option.some.inj hgiven
  | notClosed _ _ => exact Option.some.inj hgiven

/-- Exit code and output of every hook. The code is 2 exactly if the
environment is refused, which metadata has no part in, and then nothing is
printed and nothing sent; it is 0 exactly if the hook completes, and then
nothing is printed; and it is 1 exactly if the hook fails, and then one
line is printed that decodes to the upload's id, as given, and the
message. -/
theorem exit_code_and_output (invocation : Invocation) (surroundings : Surroundings)
    (env : Environment) (freshId : String) (script : Http.Script) :
    let run := (invocation.run surroundings env freshId).run script
    (run.value.exit.code = 2 ↔ Refused env invocation) ∧
    (run.value.exit.code = 2 → run.value.output = "" ∧ run.attempts = [] ∧ run.fetches = []) ∧
    (run.value.exit.code = 0 ↔ Completes surroundings env freshId script invocation) ∧
    (run.value.exit.code = 0 → run.value.output = "") ∧
    (run.value.exit.code = 1 ↔ ∃ uploadId message,
      Fails surroundings env freshId script invocation uploadId message) ∧
    (run.value.exit.code ≠ 2 → run.value.exit.code ≠ 0 → run.value.exit.code = 1) ∧
    (∀ uploadId message, Fails surroundings env freshId script invocation uploadId message →
      (∀ given, invocation.uploadId? = some given → uploadId = given) ∧
      ∃ line, run.value.output = line ++ "\n" ∧ '\n' ∉ line.toList ∧
        Json.Value.ofText line =
          .ok (.object [("message", .string message), ("upload_id", .string uploadId)])) := by
  intro run
  have htwo : run.value.exit.code = 2 ↔ Refused env invocation :=
    (Exit.code_eq_two_iff _).trans exit_eq_misconfigured_iff
  have hzero : run.value.exit.code = 0 ↔ Completes surroundings env freshId script invocation :=
    (Exit.code_eq_zero_iff _).trans exit_eq_done_iff
  refine ⟨htwo, fun hcode => ?_, hzero, fun hcode => ?_,
    (Exit.code_eq_one_iff _).trans exit_eq_failed_iff, fun hne2 hne0 => ?_,
    fun uploadId message h => ⟨fun given => h.uploadId_eq, failureText uploadId message, ?_⟩⟩
  · obtain ⟨hvalue, hsent⟩ := run_of_refused (htwo.mp hcode)
    exact ⟨by rw [hvalue]; rfl, hsent⟩
  · rw [completion_of_completes (hzero.mp hcode)]
    rfl
  · exact ((Exit.code_trichotomy _).resolve_left hne0).resolve_right hne2
  · refine ⟨?_, Json.newline_not_mem_pairsText _, ofText_failureText uploadId message⟩
    rw [completion_of_fails h]
    exact failureLine_eq uploadId message

end Hook

end UploadHooks
