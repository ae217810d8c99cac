import UploadHooks.Proofs.Hook.PreCreate

/-!
# What a verification asks of the outside

Verifying turns to two services, and the order in which it does is fixed:
metadata that is no metadata reaches neither, metadata that does not
resolve reaches the status service only, and any other starts with one
question to the store (`actions_verify`). What the store answers has no
say in that: neither a missing document nor an unreachable server makes
the hook ask again, and the question itself is a look into a directory or
one request (`SchemaSource.asks_store`).
-/

namespace UploadHooks

/-! ## One question -/

namespace Schema

/-- A base that documents can be below has a URL for every key. -/
theorem documentUrl?_of_canBeBase {base : Url} (h : base.canBeBase = true) (key : Key) :
    ∃ url, documentUrl? base key = some url := by
  cases hp : base.path with
  | segments names => simp [documentUrl?, Url.extendPath, hp]
  | bare text => simp [Url.canBeBase, hp] at h

theorem attempts_webStore {base : Url} {key : Key} {url : Url}
    (h : documentUrl? base key = some url) (documents : Http.Script) :
    (webStore base documents key).attempts =
      [⟨⟨.get, url, none⟩, (documents.answer ⟨.get, url, none⟩).1⟩] := by
  rw [webStore, h]

end Schema

namespace Hook

open Schema (Key)

/-- The attempts that a question takes: none if documents are in a
directory, and one for the URL of the document if they are on the web. -/
def SchemaSource.Asks (source : SchemaSource) (key : Key) (attempts : List Http.Attempt) : Prop :=
  match source with
  | .directory _ => attempts = []
  | .web base => ∃ url outcome, Schema.documentUrl? base key = some url ∧
      attempts = [⟨⟨.get, url, none⟩, outcome⟩]

theorem SchemaSource.asks_store {source : SchemaSource} (h : source.usable = .ok ())
    (surroundings : Surroundings) (key : Key) :
    source.Asks key (source.store surroundings key).attempts := by
  cases source with
  | directory root => rfl
  | web base =>
      have hbase : base.canBeBase = true := by
        cases hbase : base.canBeBase with
        | true => rfl
        | false => simp [usable, hbase] at h
      obtain ⟨url, hurl⟩ := Schema.documentUrl?_of_canBeBase hbase key
      exact ⟨url, _, hurl, Schema.attempts_webStore hurl surroundings.documents⟩

end Hook

/-! ## The order of a verification -/

namespace Verification

section Verify

variable (store : Schema.Store) {m : Metadata} (reporter : Option Status.Client)
variable (uploadId : String) (script : Http.Script)

theorem actions_check {upload : ResolvedUpload} (h : resolve m = .ok upload) :
    ((check store m).run script).actions =
      [.fetched (.forUpload upload) (store (.forUpload upload)).attempts] := by
  rw [check, h]
  rfl

/-- Whatever is reported, the question to the store comes first. -/
theorem actions_verify {upload : ResolvedUpload} (h : resolve m = .ok upload) :
    ∃ later, ((verify store reporter uploadId m).run script).actions =
      .fetched (.forUpload upload) (store (.forUpload upload)).attempts :: later := by
  rw [verify, Session.actions_bind, actions_check store script h]
  exact ⟨_, rfl⟩

end Verify

end Verification

namespace Hook

open Schema (Key)

section Run

variable {store : Schema.Store} {metadata : String} (reporter : Option Status.Client)
variable (uploadId : String) (script : Http.Script)

theorem actions_preCreate {m : Metadata} (h : Metadata.ofJson metadata = .ok m) :
    ((preCreate store reporter uploadId metadata).run script).actions =
      ((Verification.verify store reporter uploadId m).run script).actions := by
  rw [preCreate, h, Session.actions_bind]
  split <;> exact List.append_nil _

theorem attempts_preCreate_of_malformed {fault : Metadata.Fault}
    (h : Metadata.ofJson metadata = .error fault) :
    ((preCreate store reporter uploadId metadata).run script).attempts = [] := by
  rw [preCreate, h]
  simp

end Run

/-- How the hook before an upload deals with the outside. Metadata that
cannot be read reaches neither service, and metadata that does not resolve
leaves the store alone. All other metadata asks the store once, for the
document of its use case, before anything else is done, and a store that
the environment can ask for takes at most one request to answer. -/
theorem preCreate_asks_store_once_and_first (store : Schema.Store)
    (reporter : Option Status.Client) (uploadId metadata : String) (script : Http.Script) :
    let run := (preCreate store reporter uploadId metadata).run script
    (∀ fault, Metadata.ofJson metadata = .error fault → run.fetches = [] ∧ run.attempts = []) ∧
    (∀ m fault, Metadata.ofJson metadata = .ok m → resolve m = .error fault →
      run.fetches = []) ∧
    (∀ m upload, Metadata.ofJson metadata = .ok m → resolve m = .ok upload →
      let key := Key.forUpload upload
      key.path = "v" ++ Nat.repr upload.version.major ++ "/" ++
        (upload.useCase ++ "-" ++ upload.useCaseCategory ++ ".json") ∧
      run.fetches = [(key, (store key).attempts)] ∧
      (∃ later, run.actions = .fetched key (store key).attempts :: later) ∧
      (∀ surroundings source, source.usable = .ok () →
        store = SchemaSource.store surroundings source →
        source.Asks key (store key).attempts)) := by
  intro run
  have hfetches : run.fetches = _ := fetches_preCreate store reporter uploadId metadata script
  refine ⟨fun fault h => ?_, fun m fault h hr => ?_, fun m upload h hr => ?_⟩
  · rw [hfetches, h]
    exact ⟨rfl, attempts_preCreate_of_malformed reporter uploadId script h⟩
  · rw [hfetches, h]
    simp only [Verification.questions, hr]
  · obtain ⟨later, hlater⟩ := Verification.actions_verify store reporter uploadId script hr
    refine ⟨rfl, ?_, ⟨later, (actions_preCreate reporter uploadId script h).trans hlater⟩, ?_⟩
    · rw [hfetches, h]
      simp only [Verification.questions, hr]
    · rintro surroundings source hsource rfl
      exact SchemaSource.asks_store hsource surroundings _

end Hook

end UploadHooks
