import UploadHooks.Proofs.Status.Call
import UploadHooks.Proofs.Status.Phases
import UploadHooks.Proofs.Verification.Verdict

/-!
# The protocol of a report

The attempts of a report come in four phases: the trace is opened, the
span started, the report attached, the span stopped. Each but the first
follows the one whose ids it needs (`Follows`).

Report and end of span both follow the start of the span, and neither
follows the other: `ReportPhases` has no rule by which a failed report
could keep the span open. `submit_phases` finds the phases in a run.

Which ids the phases are for can be seen in their requests (`ShownIds`).
The trace and the report have the same use case and category among their
parameters. The id of the upload is a parameter of the trace and a segment
of the report, so the two name one upload only if the id is a name; an id
with a tab in it is not, and its report is attached to another upload
(`tab_in_upload_id_lost_by_report`).
-/

namespace UploadHooks

open Http (Attempt)

namespace Verification

open Status (Client Call Answered CarriesIds)
open Url (IsName)

/-! ## The four phases -/

/-- What each phase of a report sends, and after what it takes place. -/
structure ReportPhases (client : Client) (uploadId useCase category report : String)
    (opened started reported stopped : List Attempt) : Prop where
  opens : client.Exchanges (.createTrace uploadId useCase category) opened
  starts : client.Follows opened (fun root => .startSpan root.traceId root.spanId stage) started
  reports : client.Follows started
    (fun _ => .createReport uploadId useCase category stage report) reported
  stops : client.Follows started (fun span => .stopSpan span.traceId span.spanId) stopped

/-- What the requests of each phase show of the ids. Parameters are found
as they were given, whatever they are; ids in a path if and only if they
are names. -/
structure ShownIds (base : Url) (uploadId useCase category report : String)
    (opened started reported stopped : List Attempt) : Prop where
  ids_opened : ∀ a ∈ opened, a.request.url.parameters = base.parameters ++
    [("uploadId", uploadId), ("destinationId", useCase), ("eventType", category)]
  ids_started : ∀ root, Answered opened root → ∀ a ∈ started,
    a.request.url.parameters = base.parameters ++ [("stageName", "metadata-verify")] ∧
      (CarriesIds base (.startSpan root.traceId root.spanId stage) a.request.url ↔
        IsName root.traceId ∧ IsName root.spanId)
  ids_reported : ∀ a ∈ reported,
    a.request.url.parameters = base.parameters ++
      [("destinationId", useCase), ("eventType", category), ("stageName", "metadata-verify")] ∧
    a.request.body = some report ∧
    (CarriesIds base (.createReport uploadId useCase category stage report) a.request.url ↔
      IsName uploadId)
  ids_stopped : ∀ span, Answered started span → ∀ a ∈ stopped,
    a.request.url.parameters = base.parameters ∧
      (CarriesIds base (.stopSpan span.traceId span.spanId) a.request.url ↔
        IsName span.traceId ∧ IsName span.spanId)

namespace ReportPhases

variable {client : Client} {uploadId useCase category report : String}
variable {opened started reported stopped : List Attempt}
variable (h : ReportPhases client uploadId useCase category report opened started reported stopped)
include h

theorem length_le :
    (opened ++ started ++ reported ++ stopped).length ≤ 4 * client.policy.maxAttempts := by
  have hopened := h.opens.length_le
  have hstarted := h.starts.length_le
  have hreported := h.reports.length_le
  have hstopped := h.stops.length_le
  simp only [List.length_append]
  omega

/-- Only the attempts that attach the report have a body, which is the
report. -/
theorem body_eq : ∀ a ∈ opened ++ started ++ reported ++ stopped, ∀ body,
    a.request.body = some body → body = report := by
  intro a ha body hbody
  simp only [List.mem_append] at ha
  rcases ha with ((ha | ha) | ha) | ha
  · have hnone := Call.body_of_request? (h.opens.request_eq a ha)
    cases hbody.symm.trans hnone
  · obtain ⟨root, -, hrequest⟩ := h.starts.request_eq ha
    cases hbody.symm.trans (Call.body_of_request? hrequest)
  · obtain ⟨span, -, hrequest⟩ := h.reports.request_eq ha
    exact Option.some.inj (hbody.symm.trans (Call.body_of_request? hrequest))
  · obtain ⟨span, -, hrequest⟩ := h.stops.request_eq ha
    cases hbody.symm.trans (Call.body_of_request? hrequest)

theorem shownIds (hbase : client.base.canBeBase = true) :
    ShownIds client.base uploadId useCase category report opened started reported stopped := by
  refine ⟨fun a ha => ?_, fun root hroot a ha => ?_, fun a ha => ?_, fun span hspan a ha => ?_⟩
  · exact (Call.shownBy_request hbase (h.opens.request_eq a ha)).parameters_eq
  · have hshown := Call.shownBy_request hbase ((h.starts.exchanges root hroot).request_eq a ha)
    exact ⟨hshown.parameters_eq, hshown.carriesIds_iff.trans (by simp [Call.startSpan])⟩
  · obtain ⟨span, -, hrequest⟩ := h.reports.request_eq ha
    have hshown := Call.shownBy_request hbase hrequest
    exact ⟨hshown.parameters_eq, hshown.body_eq,
      hshown.carriesIds_iff.trans (by simp [Call.createReport])⟩
  · have hshown := Call.shownBy_request hbase ((h.stops.exchanges span hspan).request_eq a ha)
    refine ⟨?_, hshown.carriesIds_iff.trans (by simp [Call.stopSpan])⟩
    rw [hshown.parameters_eq]
    exact List.append_nil _

end ReportPhases

/-- The phases of a run. The end of the span is asked for on what the
report has left of the script, whatever became of it. -/
theorem submit_phases {client : Client} (hbase : client.base.canBeBase = true)
    (uploadId useCase category report : String) (script : Http.Script) :
    ∃ opened started reported stopped,
      ((submit client uploadId useCase category report).run script).attempts =
        opened ++ started ++ reported ++ stopped ∧
      ReportPhases client uploadId useCase category report opened started reported stopped := by
  have hex : ∀ call script, client.Exchanges call ((client.send call).run script).attempts :=
    fun call script => client.send_exchanges call script hbase
  have hopen := Client.sendForSpan_asks hbase (.createTrace uploadId useCase category) script
  rw [submit, Session.attempts_bind, Client.createTrace]
  generalize (client.sendForSpan (.createTrace uploadId useCase category)).run script = first
    at hopen ⊢
  cases hroot : first.value with
  | error fault =>
      refine ⟨first.attempts, [], [], [], by simp, hopen.exchanges, .of_error hopen hroot, ?_, ?_⟩
      · exact .of_not_answered fun span h => h.ne_nil rfl
      · exact .of_not_answered fun span h => h.ne_nil rfl
  | ok root =>
      have hstart := Client.sendForSpan_asks hbase
        (.startSpan root.traceId root.spanId stage) first.rest
      simp only [Client.startSpan, Session.attempts_bind]
      generalize (client.sendForSpan (.startSpan root.traceId root.spanId stage)).run first.rest =
        second at hstart ⊢
      have hstarts : client.Follows first.attempts
          (fun root => .startSpan root.traceId root.spanId stage) second.attempts :=
        .of_ok hopen hroot hstart.exchanges
      cases hspan : second.value with
      | error fault =>
          exact ⟨first.attempts, second.attempts, [], [], by simp, hopen.exchanges, hstarts,
            .of_error hstart hspan, .of_error hstart hspan⟩
      | ok span =>
          refine ⟨first.attempts, second.attempts, _, _, ?_, hopen.exchanges, hstarts,
            .of_ok hstart hspan (hex _ second.rest),
            .of_ok hstart hspan (hex _ ((client.sendForNothing
              (.createReport uploadId useCase category stage report)).run second.rest).rest)⟩
          simp only [Client.createReport, Client.stopSpan, Session.attempts_bind,
            Client.attempts_sendForNothing, Session.attempts_pure, List.append_nil,
            List.append_assoc]

/-- Below a base without a path a report does not get beyond its trace. -/
theorem submit_of_not_canBeBase {client : Client} (hbase : client.base.canBeBase = false)
    (uploadId useCase category report : String) :
    submit client uploadId useCase category report =
      pure (.error (.invalidUrl .createTrace client.base.text)) := by
  simp only [submit, Client.createTrace, Client.sendForSpan, Client.send_of_not_canBeBase hbase]
  rfl

/-! ## The attempts of a verification -/

section Verify

variable {store : Schema.Store} {m : Metadata} (reporter : Option Client) (uploadId : String)
variable (script : Http.Script)

theorem attempts_verify_of_ok (h : verdict store m = .ok ()) :
    ((verify store reporter uploadId m).run script).attempts = [] := by
  rw [verify, Session.attempts_bind, attempts_check, value_check, h]
  rfl

theorem attempts_verify_of_error {rejection : Rejection} (h : verdict store m = .error rejection) :
    ((verify store reporter uploadId m).run script).attempts =
      ((reportRejection reporter uploadId m rejection).run script).attempts := by
  rw [verify, Session.attempts_bind, attempts_check, value_check, rest_check, h]
  simp only [Session.attempts_bind, Session.attempts_pure, List.nil_append, List.append_nil]

theorem attempts_reportRejection (client : Client) (rejection : Rejection) :
    ((reportRejection (some client) uploadId m rejection).run script).attempts =
      ((submit client uploadId (reportIds m).1 (reportIds m).2
        (Report.ofRejection m rejection).text).run script).attempts := by
  simp only [reportRejection, Session.attempts_bind]
  split <;> simp

/-- Whatever is sent for a rejection has either no body or the report. -/
theorem body_of_mem_attempts_verify {rejection : Rejection} (h : verdict store m = .error rejection)
    {a : Attempt} (ha : a ∈ ((verify store reporter uploadId m).run script).attempts)
    {body : String} (hbody : a.request.body = some body) :
    body = (Report.ofRejection m rejection).text := by
  rw [attempts_verify_of_error reporter uploadId script h] at ha
  cases reporter with
  | none => simp [reportRejection] at ha
  | some client =>
      rw [attempts_reportRejection] at ha
      cases hbase : client.base.canBeBase with
      | false =>
          rw [submit_of_not_canBeBase hbase, Session.attempts_pure] at ha
          cases ha
      | true =>
          obtain ⟨opened, started, reported, stopped, hattempts, hphases⟩ := submit_phases hbase
            uploadId (reportIds m).1 (reportIds m).2 (Report.ofRejection m rejection).text script
          rw [hattempts] at ha
          exact hphases.body_eq a ha body hbody

end Verify

/-- What verifying sends to the status service. Accepted metadata sends
nothing, and neither does a hook without a service. A rejection is
reported in four phases of at most `maxAttempts` attempts each. All of
them are for one upload and one use case, as their requests show; that of
the report as far as the id of the upload is a name. -/
theorem verify_follows_report_protocol (store : Schema.Store) (reporter : Option Client)
    (uploadId : String) (m : Metadata) (script : Http.Script) :
    let run := (verify store reporter uploadId m).run script
    (run.value = .ok () → run.attempts = []) ∧
    (reporter = none → run.attempts = []) ∧
    (∀ client rejection, reporter = some client → client.base.canBeBase = true →
      run.value = .error rejection →
      (∃ opened started reported stopped,
        run.attempts = opened ++ started ++ reported ++ stopped ∧
        ReportPhases client uploadId (reportIds m).1 (reportIds m).2
          (Report.ofRejection m rejection).text opened started reported stopped ∧
        ShownIds client.base uploadId (reportIds m).1 (reportIds m).2
          (Report.ofRejection m rejection).text opened started reported stopped) ∧
      run.attempts.length ≤ 4 * client.policy.maxAttempts) := by
  intro run
  have hvalue : run.value = verdict store m := value_verify ..
  rw [hvalue]
  refine ⟨attempts_verify_of_ok reporter uploadId script, ?_, ?_⟩
  · rintro rfl
    cases h : verdict store m with
    | ok _ => exact attempts_verify_of_ok none uploadId script h
    | error rejection => exact attempts_verify_of_error none uploadId script h
  · rintro client rejection rfl hbase h
    have hattempts : run.attempts = _ :=
      (attempts_verify_of_error (some client) uploadId script h).trans
        (attempts_reportRejection uploadId script client rejection)
    obtain ⟨opened, started, reported, stopped, hphases, hreport⟩ := submit_phases hbase uploadId
      (reportIds m).1 (reportIds m).2 (Report.ofRejection m rejection).text script
    rw [hattempts, hphases]
    exact ⟨⟨opened, started, reported, stopped, rfl, hreport, hreport.shownIds hbase⟩,
      hreport.length_le⟩

/-- The report is throttled for good, and the span is stopped all the
same, with the ids that its start was answered with. -/
theorem verify_stops_span_after_failed_report :
    let client : Client := ⟨⟨"http", .authority ⟨"", "", "status", none⟩, .segments [],
      none, none⟩, ⟨2, .ofSecs 1⟩⟩
    let answer (ids : String) : Http.Outcome := .responded ⟨200, [], .complete ids.toUTF8.toList⟩
    let throttled : Http.Outcome := .responded ⟨429, [], .complete []⟩
    let script := [answer "\x7b\"trace_id\":\"t\",\"span_id\":\"root\"\x7d",
      answer "\x7b\"trace_id\":\"t\",\"span_id\":\"child\"\x7d", throttled, throttled]
    let store : Schema.Store := fun _ => ⟨.error (.invalidBaseUrl ""), []⟩
    let run := (verify store (some client) "upload" .empty).run script
    let rejection : Rejection := .missingFields ["meta_destination_id", "meta_ext_event"]
    let report := (Report.ofRejection .empty rejection).text
    run.value = .error rejection ∧
      (∃ opened started reported stopped,
        run.attempts = opened ++ started ++ reported ++ stopped ∧
        ReportPhases client "upload" notProvided notProvided report
          opened started reported stopped ∧
        ShownIds client.base "upload" notProvided notProvided report
          opened started reported stopped) ∧
      IsName "upload" ∧
      run.attempts.length = 6 ∧
      run.attempts.getLast?.map (·.request) = (Call.stopSpan "t" "child").request? client.base := by
  intro client answer throttled script store run rejection report
  have hvalue : run.value = .error rejection := by
    rw [value_verify]
    rfl
  refine ⟨hvalue, ?_, by decide, ?_, ?_⟩
  · exact ((verify_follows_report_protocol store (some client) "upload" .empty script).2.2 client
      rejection rfl rfl hvalue).1
  · decide +kernel
  · decide +kernel

/-- An upload id with a tab in it, and a service that answers every call.
The trace is opened for that id, but the report is attached to the upload
whose id is the same without the tab. -/
theorem tab_in_upload_id_lost_by_report :
    let base : Url := ⟨"http", .authority ⟨"", "", "status", none⟩, .segments [""], none, none⟩
    let answer (ids : String) : Http.Outcome := .responded ⟨200, [], .complete ids.toUTF8.toList⟩
    let ids := "\x7b\"trace_id\":\"t\",\"span_id\":\"s\"\x7d"
    let script := [answer ids, answer ids, answer "", answer ""]
    let store : Schema.Store := fun _ => ⟨.error (.invalidBaseUrl ""), []⟩
    let run := (verify store (some ⟨base, ⟨1, .ofSecs 1⟩⟩) "a\tb" .empty).run script
    let rejection : Rejection := .missingFields ["meta_destination_id", "meta_ext_event"]
    let report (uploadId : String) : Call := .createReport uploadId notProvided notProvided stage
      (Report.ofRejection .empty rejection).text
    run.attempts.map (·.request.url.text) = [
        "http://status/api/trace?uploadId=a%09b&destinationId=not+provided&eventType=not+provided",
        "http://status/api/trace/startSpan/t/s?stageName=metadata-verify",
        "http://status/api/report/json/uploadId/ab?destinationId=not+provided" ++
          "&eventType=not+provided&stageName=metadata-verify",
        "http://status/api/trace/stopSpan/t/s"] ∧
      ∃ a ∈ run.attempts, (report "a\tb").url? base = some a.request.url ∧
        (report "ab").url? base = some a.request.url ∧
        ¬ CarriesIds base (report "a\tb") a.request.url := by
  intro base answer ids script store run rejection report
  have hnames : base.path = .segments [""] := rfl
  have hreported : run.attempts[2]?.map (·.request.url) = (report "a\tb").url? base := by
    decide +kernel
  have hsame : (report "ab").url? base = (report "a\tb").url? base := by decide +kernel
  have hurl := Call.url?_of_segments hnames (report "a\tb")
  have hids := Status.carriesIds_iff hnames (Call.path_of_url? hnames hurl)
  have htab : ¬ IsName "a\tb" := by decide
  rw [hurl] at hreported hsame
  obtain ⟨a, ha, hrequested⟩ := Option.map_eq_some_iff.mp hreported
  rw [← hrequested] at hurl hsame hids
  refine ⟨by decide +kernel, a, List.mem_of_getElem? ha, hurl, hsame, fun h => ?_⟩
  exact htab (hids.mp h "a\tb" (List.mem_singleton_self _))

end Verification

end UploadHooks
