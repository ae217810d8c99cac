import UploadHooks.Proofs.Json.Lists
import UploadHooks.Proofs.Metadata
import UploadHooks.Proofs.Schema.Validation
import UploadHooks.Proofs.Status.Phases
import UploadHooks.Verification.Reporting

/-!
# What a report tells

The text of a report denotes an object of five members, each of which is
put together from a part that denotes its own value (`denotes_chars`). So
nothing in the metadata can break out of its place, and the object is found
whatever the fields and the issues are made of (`ofText_text`).

What the members say of the metadata is `Tells`. The metadata itself can be
read back from its member, so a report that arrives is as good as what was
verified. It is sent at least once if the policy allows any attempt, and as
one and the same request each time (`attempts_createReport`).
-/

namespace UploadHooks

namespace Verification

open Json (Value Member Denotes)
open Filename (Named Nameless)
open Status (Client Call)

/-! ## The text of a report -/

namespace Report

def issuesValue (issues : List String) : Value := .array (issues.map .string)

variable (r : Report)

def members : List Member := [
  ⟨"schema_version", Json.textOrNullChars r.schemaVersion, r.schemaVersion.elim .null .string⟩,
  ⟨"schema_name", Json.stringChars schemaName, .string schemaName⟩,
  ⟨"filename", Json.textOrNullChars r.filename, r.filename.elim .null .string⟩,
  ⟨"metadata", r.metadata.jsonChars, r.metadata.value⟩,
  ⟨"issues", Json.listChars (r.issues.map Json.stringChars), issuesValue r.issues⟩]

/-- The object of a report, its members in the order of their names. -/
def value : Value := .object [
  ("filename", r.filename.elim .null .string),
  ("issues", issuesValue r.issues),
  ("metadata", r.metadata.value),
  ("schema_name", .string schemaName),
  ("schema_version", r.schemaVersion.elim .null .string)]

theorem chars_eq : r.chars = Json.objectChars (r.members.map Member.written) := rfl

theorem ofPairs_members : .object (Entries.ofPairs (r.members.map Member.entry)) = r.value := by
  simp +decide only [members, value, Member.entry, Entries.ofPairs, Entries.insert, List.map_cons,
    List.map_nil, List.foldl_cons, List.foldl_nil, if_true, if_false]

theorem denotes_chars : Denotes r.chars r.value 2 := by
  rw [chars_eq, ← ofPairs_members]
  refine .object ?_
  simp only [members, List.forall_mem_cons, List.not_mem_nil, false_implies, implies_true, and_true]
  exact ⟨(Denotes.textOrNull _).mono (by decide), (Denotes.string _).mono (by decide),
    (Denotes.textOrNull _).mono (by decide), r.metadata.denotes_jsonChars,
    .listOf fun issue _ => .string issue⟩

theorem ofText_text : Value.ofText r.text = .ok r.value := r.denotes_chars.ofText (by decide)

end Report

/-! ## What it says -/

/-- What the members of a report say of the metadata: its version in the
canonical form, or else as it was declared; the name of the file; and the
fields, all of them. -/
structure Tells (m : Metadata) (version filename metadata : Value) : Prop where
  resolved : ∀ upload, resolve m = .ok upload → version = .string upload.version.text
  declared : ∀ fault text, resolve m = .error fault → m.get? versionField = some text →
    version = .string text
  undeclared : ∀ fault, resolve m = .error fault → m.get? versionField = none → version = .null
  nameless_iff : filename = .null ↔ Nameless m
  named_iff : ∀ name, filename = .string name ↔ Named m name
  fields : Metadata.ofJson metadata.text = .ok m

theorem tells_ofRejection (m : Metadata) (rejection : Rejection) :
    let r := Report.ofRejection m rejection
    Tells m (r.schemaVersion.elim .null .string) (r.filename.elim .null .string)
      r.metadata.value := by
  intro r
  have hversion : r.schemaVersion = Report.versionOf m := rfl
  have hfilename : r.filename = Filename.find? m := rfl
  rw [hversion, hfilename, Report.versionOf]
  refine ⟨fun upload h => ?_, fun fault text h htext => ?_, fun fault h hnone => ?_, ?_,
    fun name => ?_, m.ofJson_text_value⟩
  · rw [h]
    rfl
  · rw [h]
    simp only [htext, Option.elim_some]
  · rw [h]
    simp only [hnone, Option.elim_none]
  · rw [← Filename.find?_eq_none_iff]
    cases Filename.find? m <;> simp
  · rw [← Filename.find?_eq_some_iff]
    cases Filename.find? m <;> simp

/-! ## How it is sent -/

theorem attempts_createReport (client : Client) (uploadId useCase category stage report : String)
    (script : Http.Script) :
    ((client.createReport uploadId useCase category stage report).run script).attempts =
      ((client.send (.createReport uploadId useCase category stage report)).run script).attempts :=
  Client.attempts_sendForNothing ..

/-- A report is found in its text as it was made: the issues one by one, and
all that was known of the metadata. That text is the body of one request,
which is sent at least once, unless no attempt is allowed, and is the same
on every attempt. -/
theorem report_loses_nothing (m : Metadata) (rejection : Rejection) :
    let report := (Report.ofRejection m rejection).text
    (∃ version filename metadata, Value.ofText report = .ok (.object [
        ("filename", filename),
        ("issues", .array (rejection.issueMessages.map .string)),
        ("metadata", metadata),
        ("schema_name", .string "dex-metadata-verify"),
        ("schema_version", version)]) ∧
      Tells m version filename metadata) ∧
    ∀ (client : Client) (uploadId useCase category stage : String) (script : Http.Script),
      let run := (client.createReport uploadId useCase category stage report).run script
      (∀ a ∈ run.attempts, a.request.body = some report) ∧
      (client.base.canBeBase = true → ∃ request,
        (Call.createReport uploadId useCase category stage report).request? client.base =
          some request ∧
        request.body = some report ∧
        (∀ a ∈ run.attempts, a.request = request) ∧
        run.attempts.length ≤ client.policy.maxAttempts ∧
        (0 < client.policy.maxAttempts → run.attempts ≠ [])) := by
  intro report
  refine ⟨⟨_, _, _, Report.ofText_text _, tells_ofRejection m rejection⟩, ?_⟩
  intro client uploadId useCase category stage script run
  have hattempts : run.attempts = _ := attempts_createReport ..
  rw [hattempts]
  refine ⟨fun a ha => Call.body_of_request? (Client.request_of_mem_send ha), fun hbase => ?_⟩
  obtain ⟨request, hrequest, hexchange⟩ :=
    client.send_exchanges (.createReport uploadId useCase category stage report) script hbase
  exact ⟨request, hrequest, Call.body_of_request? hrequest, hexchange.request_eq,
    hexchange.length_le, hexchange.ne_nil⟩

/-- Quotes and line breaks of the metadata stay inside its strings. The
service is overloaded at first, and is then sent the same body again. -/
theorem report_sent_again_when_throttled :
    let client : Client := ⟨⟨"http", .authority ⟨"", "", "status", none⟩, .segments [],
      none, none⟩, ⟨3, .ofSecs 1⟩⟩
    let script : Http.Script := [.responded ⟨429, [], .complete []⟩,
      .responded ⟨200, [], .complete []⟩]
    let m := Metadata.ofPairs [("version", "9"), ("filename", "a\"\n\\")]
    let report := (Report.ofRejection m (.unsupportedVersion "9")).text
    let run := (client.createReport "upload" "aims" "celr" stage report).run script
    report = "\x7b\"schema_version\":\"9\",\"schema_name\":\"dex-metadata-verify\"," ++
        "\"filename\":\"a\\\"\\n\\\\\",\"metadata\":\x7b\"filename\":\"a\\\"\\n\\\\\"," ++
        "\"version\":\"9\"\x7d,\"issues\":[\"Unsupported metadata version: 9\"]\x7d" ∧
      client.base.canBeBase = true ∧ 0 < client.policy.maxAttempts ∧
      run.attempts ≠ [] ∧ run.attempts.length = 2 ∧
      ∀ a ∈ run.attempts, a.request.body = some report := by
  intro client script m report run
  have hbase : client.base.canBeBase = true := rfl
  have hpos : 0 < client.policy.maxAttempts := by decide
  obtain ⟨hbody, hsent⟩ := (report_loses_nothing m (.unsupportedVersion "9")).2 client "upload"
    "aims" "celr" stage script
  obtain ⟨_, -, -, -, -, hne⟩ := hsent hbase
  exact ⟨by decide +kernel, hbase, hpos, hne hpos, by decide +kernel, hbody⟩

end Verification

end UploadHooks
