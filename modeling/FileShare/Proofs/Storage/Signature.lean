import FileShare.Proofs.Storage.Derivation
import FileShare.Proofs.Storage.Operation

/-!
# Signed operations

Every request that an operation sends through a pipeline with a credential bears
a signature that the peer can verify by what it receives.
-/

set_option autoImplicit false

namespace FileShare

namespace Operation

def handle : Operation -> Handle
  | .createShare share _ _ => .share share
  | .deleteShare share => .share share
  | .createDirectory directory _ => .directory directory
  | .deleteDirectory directory => .directory directory
  | .createFile file _ _ _ => .file file
  | .uploadRange file _ _ => .file file
  | .download file _ _ => .file file
  | .fileProperties file => .file file
  | .deleteFile file => .file file

theorem pipeline_handle (operation : Operation) :
    operation.handle.pipeline = operation.pipeline := by
  cases operation <;> rfl

theorem url_handle (operation : Operation) : operation.handle.url = operation.url := by
  cases operation <;> rfl

theorem prepared_isSigned {operation : Operation} {request prepared : Request}
    {credential : Credential} {now : Instant} (built : operation.request = .ok request)
    (success : request.announced.authorize credential now = .ok prepared)
    (userAgent : Option Text) :
    (prepared.received userAgent).IsSigned operation.arrivalUrl credential := by
  have signed := Request.received_isSigned success (request_isSettled built) userAgent
  have target : prepared.url = operation.asked.url := by
    obtain ⟨pairs, -, rfl⟩ := request_ok built
    rw [Request.eq_of_authorize success, Request.announced]
    split
    · rfl
    · rfl
  rw [target, asked_url] at signed
  exact signed

theorem perform_isSigned {operation : Operation} {credential : Credential}
    (signs : operation.pipeline.credential = some credential) (before : Session) :
    ∃ sent, (operation.perform before).2.received = before.received ++ sent ∧
      sent.length ≤ 1 ∧
      ∀ received ∈ sent, received.IsSigned operation.arrivalUrl credential := by
  have whole : (operation.perform before).2.received = (operation.run before).2.received :=
    congrArg Prod.fst (operation.perform_wire before)
  rw [whole]
  rcases operation.run_delivers before with nothing | ⟨request, prepared, built, success, once⟩
  · have none : (operation.run before).2.received = before.received := congrArg Prod.fst nothing
    refine ⟨[], ?_, Nat.zero_le 1, List.forall_mem_nil _⟩
    rw [none, List.append_nil]
  · refine ⟨_, once, Nat.le_refl 1, fun received member => ?_⟩
    rw [List.mem_singleton.mp member]
    rw [Pipeline.prepare, signs] at success
    exact prepared_isSigned built success operation.pipeline.userAgent

end Operation

/-- An operation on a handle of a service with a credential sends one request at most,
and what arrives is signed. -/
theorem signature_verifies_on_arrival {service : Service} {credential : Credential}
    (signs : service.pipeline.credential = some credential) {names : List Text}
    {operation : Operation} (derives : service.Derives names operation.handle)
    (before : Session) :
    ∃ sent, (operation.perform before).2.received = before.received ++ sent ∧
      sent.length ≤ 1 ∧
      ∀ received ∈ sent, received.IsSigned operation.arrivalUrl credential := by
  have signing : operation.pipeline.credential = some credential := by
    rw [← operation.pipeline_handle, derives.pipeline_eq, signs]
  exact operation.perform_isSigned signing before

/-- The sample service with a credential and a name for the client. -/
def Service.signingSample : Service :=
  { Service.sample with
    pipeline := { credential := some ⟨"account", [1, 2, 3]⟩, userAgent := some "agent" } }

def Operation.creatingSample : Operation :=
  .createShare (Service.signingSample.share "files") none 5

def Session.silentSample : Session :=
  { now := ⟨671, 111111111⟩, settings := [], thread := none, sequence := 0
    peer := .scripted [] .hangUp, detours := fun _ _ _ => none
    log := [], received := [], followed := [] }

theorem signature_verifies_on_arrival_sample :
    ∃ received,
      (Operation.creatingSample.perform Session.silentSample).2.received = [received] ∧
        received.IsSigned Operation.creatingSample.arrivalUrl ⟨"account", [1, 2, 3]⟩ := by
  have derives : Service.signingSample.Derives ["files".toList]
      Operation.creatingSample.handle := .share _
  obtain ⟨sent, whole, -, signed⟩ := signature_verifies_on_arrival
    (show Service.signingSample.pipeline.credential = some ⟨"account", [1, 2, 3]⟩ from rfl)
    derives Session.silentSample
  have before : Session.silentSample.received = [] := rfl
  rw [before, List.nil_append] at whole
  have once : (Operation.creatingSample.perform Session.silentSample).2.received.length = 1 := by
    decide +kernel
  rw [whole] at once
  obtain ⟨received, rfl⟩ := List.length_eq_one_iff.mp once
  exact ⟨received, whole, signed received List.mem_cons_self⟩

end FileShare
