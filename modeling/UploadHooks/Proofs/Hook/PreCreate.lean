import UploadHooks.Hook
import UploadHooks.Proofs.Verification.Verdict

/-!
# The hook before an upload

What the upload server gets from verifying an upload, and what the store
is asked for it, are functions of the metadata, the upload's id and the
store. `preCreate_independent_of_reporting` draws the conclusion for two
runs: whatever service the rejections go to and however it behaves, no
difference shows on this side.
-/

namespace UploadHooks

namespace Hook

open Verification (verdict questions)

/-- How the hook completes, without its report. -/
def completion (store : Schema.Store) (uploadId metadata : String) : Completion :=
  match Metadata.ofJson metadata with
  | .error fault => .failure uploadId (malformedMessage fault)
  | .ok m =>
    match verdict store m with
    | .ok () => .done
    | .error rejection => .failure uploadId rejection.message

section Run

variable (store : Schema.Store) (reporter : Option Status.Client) (uploadId metadata : String)
variable (script : Http.Script)

theorem value_preCreate :
    ((preCreate store reporter uploadId metadata).run script).value =
      completion store uploadId metadata := by
  rw [preCreate, completion]
  cases Metadata.ofJson metadata with
  | error fault => rfl
  | ok m =>
      simp only [Session.value_bind, Verification.value_verify]
      cases verdict store m with
      | ok _ => rfl
      | error rejection => rfl

theorem fetches_preCreate :
    ((preCreate store reporter uploadId metadata).run script).fetches =
      match Metadata.ofJson metadata with
      | .error _ => []
      | .ok m => questions store m := by
  rw [preCreate]
  cases Metadata.ofJson metadata with
  | error fault => rfl
  | ok m =>
      simp only [Session.fetches_bind, Verification.value_verify, Verification.fetches_verify]
      cases verdict store m with
      | ok _ => simp
      | error rejection => simp

end Run

/-- Two runs on the same metadata, with services that have nothing in
common or with none, come to the same verdict, ask the store the same and
complete in the same way. -/
theorem preCreate_independent_of_reporting (store : Schema.Store) (uploadId metadata : String)
    (reporter₁ reporter₂ : Option Status.Client) (script₁ script₂ : Http.Script) :
    let run₁ := (preCreate store reporter₁ uploadId metadata).run script₁
    let run₂ := (preCreate store reporter₂ uploadId metadata).run script₂
    (∀ m, Metadata.ofJson metadata = .ok m →
      ((Verification.verify store reporter₁ uploadId m).run script₁).value =
        ((Verification.verify store reporter₂ uploadId m).run script₂).value) ∧
    run₁.fetches = run₂.fetches ∧
    run₁.value.exit.code = run₂.value.exit.code ∧
    run₁.value.output = run₂.value.output := by
  intro run₁ run₂
  have hvalue : run₁.value = run₂.value := by
    rw [value_preCreate, value_preCreate]
  refine ⟨fun m _ => ?_, ?_, by rw [hvalue], by rw [hvalue]⟩
  · rw [Verification.value_verify, Verification.value_verify]
  · rw [fetches_preCreate, fetches_preCreate]

end Hook

end UploadHooks
