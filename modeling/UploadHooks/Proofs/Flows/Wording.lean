import UploadHooks.Proofs.Hook.Completion
import UploadHooks.Proofs.Lifecycle.Opening
import UploadHooks.Proofs.Verification.ReportProtocol
import UploadHooks.Proofs.Verification.ReportText

/-!
# One wording of a rejection

A rejection is put into words in several places: its message is printed by
the hook before an upload, its issues go into the report one by one, and
what keeps metadata from resolving has a message of its own, which the hook
after an upload prints. Each place has its own text. They are in step
because the message joins the issues (`join_issueMessages`) and a fault
keeps its message when it becomes a rejection (`message_ofResolve`).

What a message has to mention is stated by `Mentions`, which passes from
the issue to the message that it is joined into.
-/

namespace UploadHooks

open Json (Value)
open Status (Client)

/-! ## Texts in a text -/

/-- The part stands in the text as it is. -/
def Mentions (text part : String) : Prop := ∃ before after, text = before ++ part ++ after

namespace Mentions

theorem trans {text part inner : String} (h : Mentions text part) (h' : Mentions part inner) :
    Mentions text inner := by
  obtain ⟨before, after, rfl⟩ := h
  obtain ⟨before', after', rfl⟩ := h'
  exact ⟨before ++ before', after' ++ after, by simp only [String.append_assoc]⟩

/-- Whatever is joined can be found in the whole. -/
theorem of_mem {separator part : String} {parts : List String} (h : part ∈ parts) :
    Mentions (String.intercalate separator parts) part := by
  induction parts with
  | nil => cases h
  | cons p parts ih =>
      by_cases hparts : parts = []
      · rw [hparts, List.mem_singleton] at h
        exact ⟨"", "", by simp [h, hparts]⟩
      · rw [String.intercalate_cons_of_ne_nil hparts]
        rcases List.mem_cons.mp h with rfl | h
        · refine ⟨"", separator ++ String.intercalate separator parts, ?_⟩
          simp [String.append_assoc]
        · obtain ⟨before, after, hrest⟩ := ih h
          refine ⟨p ++ separator ++ before, after, ?_⟩
          rw [hrest]
          simp [String.append_assoc]

end Mentions

theorem Issue.mentions_missingRequired (field description : String) :
    Mentions (Issue.missingRequired field description).text field ∧
      Mentions (Issue.missingRequired field description).text description := by
  have htext : (Issue.missingRequired field description).text =
      "Missing required metadata '" ++ field ++ "', description = '" ++ description ++ "'" := rfl
  rw [htext]
  refine ⟨⟨"Missing required metadata '", "', description = '" ++ description ++ "'", ?_⟩,
    ⟨"Missing required metadata '" ++ field ++ "', description = '", "'", rfl⟩⟩
  simp only [String.append_assoc]

namespace Verification

/-! ## The message and the issues -/

namespace Rejection

theorem message_ofResolve (fault : ResolveFault) : (ofResolve fault).message = fault.message := by
  cases fault <;> rfl

theorem join_issueMessages (rejection : Rejection) :
    String.intercalate "; " rejection.issueMessages = rejection.message := by
  cases rejection with
  | validationFailed issues => rfl
  | unsupportedVersion declared => exact String.intercalate_singleton
  | missingFields fields => exact String.intercalate_singleton
  | schemaNotFound fault => exact String.intercalate_singleton

end Rejection

section Verdict

variable {store : Schema.Store} {m : Metadata} {rejection : Rejection}

/-- Metadata is not rejected for nothing. -/
theorem issueMessages_ne_nil (h : verdict store m = .error rejection) :
    rejection.issueMessages ≠ [] := by
  cases rejection with
  | validationFailed issues =>
      have hissues := (verdict_eq_validationFailed_iff.mp h).1
      simpa [Rejection.issueMessages] using hissues
  | unsupportedVersion declared => exact List.cons_ne_nil _ _
  | missingFields fields => exact List.cons_ne_nil _ _
  | schemaNotFound fault => exact List.cons_ne_nil _ _

/-- A required field that is absent is mentioned with its description,
whatever else is wrong. -/
theorem mentions_of_absent {d : Schema.Definition} (h : verdict store m = .error rejection)
    (happlies : Applies store m d) {rule : Schema.FieldRule} (hrule : rule ∈ d.rules)
    (hrequired : rule.required = true) (habsent : m.get? rule.field = none) :
    Mentions rejection.message rule.field ∧ Mentions rejection.message rule.description := by
  have hissue := Schema.missingRequired_mem_allIssues hrule hrequired habsent
  have hvalidation : verdict store m = .error (.validationFailed (Schema.allIssues m d)) :=
    verdict_eq_validationFailed_iff.mpr ⟨List.ne_nil_of_mem hissue, d, happlies, rfl⟩
  obtain rfl := Except.error.inj (h.symm.trans hvalidation)
  have htext : Mentions (Rejection.validationFailed (Schema.allIssues m d)).message
      (Issue.missingRequired rule.field rule.description).text :=
    .of_mem (List.mem_map_of_mem hissue)
  obtain ⟨hfield, hdescription⟩ :=
    Issue.mentions_missingRequired rule.field rule.description
  exact ⟨htext.trans hfield, htext.trans hdescription⟩

end Verdict

end Verification

/-! ## What is printed -/

namespace Hook

open Verification (Rejection verdict)

/-- The output is a line that decodes to the upload's id and the message. -/
def Prints (output uploadId message : String) : Prop :=
  ∃ line, output = line ++ "\n" ∧ '\n' ∉ line.toList ∧ Value.ofText line =
    .ok (.object [("message", .string message), ("upload_id", .string uploadId)])

theorem prints_failure (uploadId message : String) :
    Prints (Completion.failure uploadId message).output uploadId message :=
  ⟨failureText uploadId message, failureLine_eq uploadId message,
    Json.newline_not_mem_pairsText _, ofText_failureText uploadId message⟩

section Run

variable {metadata : String} {m : Metadata} (uploadId : String) (script : Http.Script)

theorem preCreate_prints {store : Schema.Store} {rejection : Rejection}
    (hread : Metadata.ofJson metadata = .ok m) (h : verdict store m = .error rejection)
    (reporter : Option Client) :
    Prints ((preCreate store reporter uploadId metadata).run script).value.output uploadId
      rejection.message := by
  have hvalue := value_preCreate store reporter uploadId metadata script
  simp only [completion, hread, h] at hvalue
  rw [hvalue]
  exact prints_failure uploadId rejection.message

theorem postCreate_prints {fault : ResolveFault} (hread : Metadata.ofJson metadata = .ok m)
    (h : resolve m = .error fault) (client : Client) :
    Prints ((postCreate client uploadId metadata).run script).value.output uploadId
      fault.message := by
  simp only [postCreate, hread, Session.value_bind,
    Lifecycle.postCreate_of_resolve_error uploadId h]
  exact prints_failure uploadId fault.message

end Run

end Hook

/-! ## In all places -/

namespace Verification

open Hook (Prints)

/-- A rejection has one text wherever it turns up. The hook prints its
message; the report, and whatever is sent of it, lists issues that are the
message when they are joined, and there is at least one. Required fields
that are absent can be found in it with their descriptions. If metadata
does not resolve, the flow after an upload says the same of it. -/
theorem rejection_worded_alike (store : Schema.Store) (reporter : Option Client)
    (uploadId : String) (m : Metadata) (script : Http.Script) (rejection : Rejection)
    (h : ((verify store reporter uploadId m).run script).value = .error rejection) :
    let message := rejection.message
    let report := (Report.ofRejection m rejection).text
    (∀ metadata, Metadata.ofJson metadata = .ok m →
      Prints ((Hook.preCreate store reporter uploadId metadata).run script).value.output uploadId
        message) ∧
    (∃ members issues, Value.ofText report = .ok (.object members) ∧
      Entries.get? members "issues" = some (.array (issues.map .string)) ∧
      issues ≠ [] ∧ String.intercalate "; " issues = message) ∧
    (∀ a ∈ ((verify store reporter uploadId m).run script).attempts, ∀ body,
      a.request.body = some body → body = report) ∧
    (∀ d, Applies store m d → ∀ rule ∈ d.rules, rule.required = true →
      m.get? rule.field = none → Mentions message rule.field ∧ Mentions message rule.description) ∧
    (∀ fault, resolve m = .error fault → fault.message = message ∧
      ∀ client id script, ((Lifecycle.postCreate client id m).run script).value =
          .error (.resolve fault) ∧
        (Lifecycle.Fault.resolve fault).message = message ∧
        ∀ metadata, Metadata.ofJson metadata = .ok m →
          Prints ((Hook.postCreate client id metadata).run script).value.output id message) := by
  intro message report
  rw [value_verify] at h
  refine ⟨fun metadata hread => Hook.preCreate_prints uploadId script hread h reporter,
    ⟨_, rejection.issueMessages, Report.ofText_text _, rfl, issueMessages_ne_nil h,
      rejection.join_issueMessages⟩,
    fun a ha body hbody => body_of_mem_attempts_verify reporter uploadId script h ha hbody,
    fun d happlies rule hrule hrequired habsent =>
      mentions_of_absent h happlies hrule hrequired habsent, fun fault hfault => ?_⟩
  obtain rfl := Except.error.inj (h.symm.trans (verdict_of_resolve_error hfault))
  have hmessage : fault.message = message := (Rejection.message_ofResolve fault).symm
  refine ⟨hmessage, fun client id script => ⟨?_, hmessage, fun metadata hread => ?_⟩⟩
  · rw [Lifecycle.postCreate_of_resolve_error id hfault, Session.value_pure]
  · rw [← hmessage]
    exact Hook.postCreate_prints id script hread hfault client

/-- Two issues, the first with a quotation in its description. -/
theorem absent_owner_worded_alike :
    let rule : Schema.FieldRule := ⟨"owner", true, none, "who \"owns\" it"⟩
    let store : Schema.Store := fun _ => ⟨.ok (.single ⟨none, [rule]⟩), []⟩
    let m := Metadata.ofPairs [("meta_destination_id", "ndlp"), ("meta_ext_event", "ri")]
    let rejection : Rejection :=
      .validationFailed [.missingRequired "owner" "who \"owns\" it", .noFilename Filename.fields]
    ((verify store none "upload" m).run []).value = .error rejection ∧
      rejection.message = "Missing required metadata 'owner', description = 'who \"owns\" it'; " ++
        "No filename provided; expected one of: filename, original_filename, meta_ext_filename" ∧
      Prints ((Hook.preCreate store none "upload" m.json).run []).value.output "upload"
        rejection.message ∧
      Mentions rejection.message "owner" ∧ Mentions rejection.message "who \"owns\" it" := by
  intro rule store m rejection
  have hresolve : resolve m = .ok ⟨.v1, "ndlp", "ri"⟩ := by decide +kernel
  have happlies : Applies store m ⟨none, [rule]⟩ :=
    ⟨_, _, resolve_eq_ok_iff.mp hresolve, rfl, rfl⟩
  have hrejected : ((verify store none "upload" m).run []).value = .error rejection := by
    rw [value_verify, verdict_eq_validationFailed_iff]
    exact ⟨List.cons_ne_nil _ _, _, happlies, by decide +kernel⟩
  obtain ⟨hprints, -, -, hmentions, -⟩ :=
    rejection_worded_alike store none "upload" m [] rejection hrejected
  refine ⟨hrejected, by decide +kernel, hprints _ (Metadata.ofJson_json m), ?_⟩
  exact hmentions _ happlies rule (List.mem_singleton_self rule) rfl (by decide +kernel)

end Verification

end UploadHooks
