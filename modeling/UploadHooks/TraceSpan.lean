import UploadHooks.Json.Reader
import UploadHooks.Json.Shape
import UploadHooks.Json.Writer

/-!
# Traces and spans

The status service keeps a trace per upload and a span per stage of it. A
span is named by a pair of ids. Two readers of such a pair exist: the
strict one takes a record of two texts, the lenient one takes the body of
a response, where ids also come as numbers and anything else may stand
beside them. Written, a pair is a record of two texts.
-/

namespace UploadHooks

open Json (Value Decoded)

structure TraceSpan where
  traceId : String
  spanId : String
  deriving DecidableEq, Repr

/-- The trace of an upload, with the span that its stages hang off. -/
structure UploadTrace where
  uploadId : String
  traceId : String
  parentSpanId : String
  deriving DecidableEq, Repr

/-- The trace whose root span a service has answered. -/
def UploadTrace.ofRoot (uploadId : String) (root : TraceSpan) : UploadTrace :=
  ⟨uploadId, root.traceId, root.spanId⟩

/-! ## Strict reading -/

namespace TraceSpan

structure Draft where
  traceId : Option String
  spanId : Option String

def Draft.readMember (draft : Draft) (member : String × Value) : Decoded Draft :=
  let (name, v) := member
  if name = "trace_id" then
    (Json.setOnce "trace_id" draft.traceId v.asText).map fun x => { draft with traceId := x }
  else if name = "span_id" then
    (Json.setOnce "span_id" draft.spanId v.asText).map fun x => { draft with spanId := x }
  else .ok draft

def Draft.complete (draft : Draft) : Decoded TraceSpan := do
  let traceId ← Json.required "trace_id" draft.traceId
  let spanId ← Json.required "span_id" draft.spanId
  return ⟨traceId, spanId⟩

def shape : String := "struct TraceSpan with 2 elements"

def ofElements (items : List Value) : Decoded TraceSpan := do
  let (traceId, rest) ← Json.element Value.asText shape 0 items
  let (spanId, rest) ← Json.element Value.asText shape 1 rest
  Json.noMore items.length rest
  return ⟨traceId, spanId⟩

def ofValue : Value → Decoded TraceSpan
  | .object members => (members.foldlM Draft.readMember ⟨none, none⟩).bind (·.complete)
  | .array items => ofElements items
  | v => .error (.wrongType v "struct TraceSpan")

end TraceSpan

namespace UploadTrace

structure Draft where
  uploadId : Option String
  traceId : Option String
  parentSpanId : Option String

def Draft.readMember (draft : Draft) (member : String × Value) : Decoded Draft :=
  let (name, v) := member
  if name = "upload_id" then
    (Json.setOnce "upload_id" draft.uploadId v.asText).map fun x => { draft with uploadId := x }
  else if name = "trace_id" then
    (Json.setOnce "trace_id" draft.traceId v.asText).map fun x => { draft with traceId := x }
  else if name = "parent_span_id" then
    (Json.setOnce "parent_span_id" draft.parentSpanId v.asText).map fun x =>
      { draft with parentSpanId := x }
  else .ok draft

def Draft.complete (draft : Draft) : Decoded UploadTrace := do
  let uploadId ← Json.required "upload_id" draft.uploadId
  let traceId ← Json.required "trace_id" draft.traceId
  let parentSpanId ← Json.required "parent_span_id" draft.parentSpanId
  return ⟨uploadId, traceId, parentSpanId⟩

def shape : String := "struct UploadTraceContext with 3 elements"

def ofElements (items : List Value) : Decoded UploadTrace := do
  let (uploadId, rest) ← Json.element Value.asText shape 0 items
  let (traceId, rest) ← Json.element Value.asText shape 1 rest
  let (parentSpanId, rest) ← Json.element Value.asText shape 2 rest
  Json.noMore items.length rest
  return ⟨uploadId, traceId, parentSpanId⟩

def ofValue : Value → Decoded UploadTrace
  | .object members => (members.foldlM Draft.readMember ⟨none, none, none⟩).bind (·.complete)
  | .array items => ofElements items
  | v => .error (.wrongType v "struct UploadTraceContext")

end UploadTrace

/-! ## Lenient reading -/

namespace TraceSpan

/-- An id as the service writes it, as a text or as a number. -/
def idText? : Value → Option String
  | .string s => some s
  | .number n => some n.text
  | _ => none

def idMember? (v : Value) (name : String) : Option String := (v.member? name).bind idText?

/-- The pair of ids in the body of a response. -/
def ofBody? (body : String) : Option TraceSpan :=
  match Value.ofText body with
  | .error _ => none
  | .ok v =>
    match idMember? v "trace_id", idMember? v "span_id" with
    | some traceId, some spanId => some ⟨traceId, spanId⟩
    | _, _ => none

/-! ## Writing -/

def chars (span : TraceSpan) : List Char :=
  Json.objectChars [
    ("trace_id", Json.stringChars span.traceId),
    ("span_id", Json.stringChars span.spanId)]

def text (span : TraceSpan) : String := String.ofList span.chars

end TraceSpan

end UploadHooks
