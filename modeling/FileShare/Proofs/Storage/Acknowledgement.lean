import FileShare.Proofs.Storage.Building

/-!
# Creations that are acknowledged

What creates or writes succeeds on the status of a new resource alone, and then says this
status.  At a date such an operation never stops: it is sent if the client can use its URL,
takes the next action of the peer, and succeeds if that is the acknowledgement; in every other
case it ends with an error of the storage.  All this is said of peers whose next reply sends the
client nowhere else.
-/

set_option autoImplicit false

namespace FileShare

def PeerAction.Acknowledges : PeerAction -> Prop
  | .reply answer => answer.status = 201
  | .hangUp => False

namespace Peer

/-- What the peer does with its next requests. -/
def actions : Nat -> Peer -> List PeerAction
  | 0, _ => []
  | count + 1, peer =>
      match peer.answer with
      | (some action, next) => action :: actions count next
      | (none, _) => []

theorem actions_succ {peer next : Peer} {action : PeerAction}
    (answered : peer.answer = (some action, next)) (count : Nat) :
    peer.actions (count + 1) = action :: next.actions count := by
  simp only [actions, answered]

theorem length_actions {peer : Peer} (there : peer ≠ .unreachable) (count : Nat) :
    (peer.actions count).length = count := by
  induction count generalizing peer with
  | zero => rfl
  | succ count ih =>
      obtain ⟨action, met, later⟩ := answer_of_there there
      rw [actions_succ (Prod.ext met rfl), List.length_cons, ih later]

end Peer

/-! ## The clock stands still -/

theorem Pipeline.send_now (pipeline : Pipeline) (request : Request) (expected : List Nat)
    (before : Session) : (pipeline.send request expected before).2.now = before.now := by
  rcases pipeline.send_cases request expected before with ⟨failure, log, sent, -⟩ |
    ⟨prepared, log, -, -, sent⟩
  · rw [sent]
  · rw [sent]
    rfl

/-- A request that can be prepared does not stop the run. -/
theorem Pipeline.send_goesOn {pipeline : Pipeline} {request prepared : Request}
    {before : Session} (success : pipeline.prepare before.now request = .ok prepared)
    (expected : List Nat) (message : Text) :
    (pipeline.send request expected before).1 ≠ .error (.stopped message) := by
  rcases exchanged : exchange prepared pipeline.userAgent (announcing prepared before) with
    ⟨result, after⟩
  obtain ⟨log, sent⟩ := send_prepared success expected exchanged
  rw [sent]
  exact judge_goesOn expected result message

namespace Operation

theorem run_now (operation : Operation) (before : Session) :
    (operation.run before).2.now = before.now := by
  rcases operation.run_rests_or_sends before with ⟨rests, -⟩ | ⟨request, -, sends⟩
  · exact congrArg Session.now rests
  · rw [sends]
    exact operation.pipeline.send_now request operation.expected before

theorem offer_now (operation : Operation) (before : Session) :
    (operation.offer before).2.now = before.now := by
  have kept := operation.run_now before
  rw [offer_eq, Run.bind_apply]
  rcases ran : operation.run before with ⟨failure | response, after⟩
  · rw [ran] at kept
    exact kept
  · rw [ran] at kept
    obtain ⟨log, settled⟩ := operation.settle_apply response after
    simp only [settled]
    exact kept

/-- A request that can always be prepared does not stop the run. -/
theorem run_goesOn {operation : Operation} {before : Session}
    (prepares : ∀ request, ∃ prepared, operation.pipeline.prepare before.now request = .ok prepared)
    (message : Text) : (operation.run before).1 ≠ .error (.stopped message) := by
  rcases operation.run_rests_or_sends before with ⟨-, goesOn⟩ | ⟨request, -, sends⟩
  · exact goesOn message
  · obtain ⟨prepared, success⟩ := prepares request
    rw [sends]
    exact fun stopped =>
      Pipeline.send_goesOn success operation.expected message (error_of_map stopped)

/-- With a credential that can stand in a request, at a date no operation stops the run. -/
theorem offer_goesOn {operation : Operation} {credential : Credential} {before : Session}
    (asks : operation.handle.CanAsk credential) (date : before.now.IsDate) (message : Text) :
    (operation.offer before).1 ≠ .error (.stopped message) := by
  have signs : operation.pipeline.credential = some credential :=
    operation.pipeline_handle ▸ asks.signs
  have prepares (request : Request) :
      ∃ prepared, operation.pipeline.prepare before.now request = .ok prepared := by
    rw [Pipeline.prepare, signs]
    exact ⟨_, Request.authorize_of_named asks.named date request.announced⟩
  have goesOn := run_goesOn prepares message
  rw [offer_eq, Run.bind_apply]
  rcases ran : operation.run before with ⟨failure | response, after⟩
  · rw [ran] at goesOn
    exact fun stopped => goesOn (by cases stopped; rfl)
  · obtain ⟨log, settled⟩ := operation.settle_apply response after
    simp only [settled]
    exact fun stopped => by cases error_of_read stopped

/-! ## What creates or writes -/

/-- Whether the operation creates a resource or writes into one. -/
def creates : Operation -> Bool
  | .createShare .. | .createDirectory .. | .createFile .. | .uploadRange .. => true
  | _ => false

section Creating

variable {operation : Operation} (creating : operation.creates = true)
include creating

theorem isIdle_of_creates : operation.isIdle = false := by
  cases operation <;> first | rfl | cases creating

theorem accepts_of_creates (status : Nat) : operation.Accepts status ↔ status = 201 := by
  cases operation <;> first | exact Iff.rfl | cases creating

theorem read_of_creates (response : Response) :
    operation.read (some response) =
      .ok (.created (.ofResponse response.status response.fields)) := by
  cases operation <;> first | rfl | cases creating

/-- A creation that succeeds says the status of a new resource. -/
theorem created_of_offer {before : Session} {outcome : Outcome}
    (offered : (operation.offer before).1 = .ok outcome) :
    ∃ created, outcome = .created created ∧ created.status = Status.created := by
  have busy : ¬ operation.ReadsNothing := by
    rw [← isIdle_iff, isIdle_of_creates creating]
    exact Bool.false_ne_true
  rcases operation.offer_cases before with ⟨nothing, -⟩ | ⟨-, failure, log, failed, -⟩ |
    ⟨-, passed, last, result, after, -, meets, ended⟩
  · exact absurd nothing busy
  · rw [failed] at offered
    cases offered
  · rw [ended] at offered
    obtain rfl : result = .ok outcome := offered
    match last, meets with
    | none, ⟨_, failed⟩ => cases failed
    | some .hangUp, ⟨_, failed⟩ => cases failed
    | some (.reply reply), .inl ⟨accepted, read⟩ =>
        rw [read_of_creates creating] at read
        refine ⟨_, Except.ok.inj read, ?_⟩
        exact (reply.status_seen _).trans ((accepts_of_creates creating _).mp accepted)
    | some (.reply reply), .inr ⟨_, _, _, failed⟩ => cases failed

/-- Where its request can be used, the operation meets the next action of the peer and succeeds
if that acknowledges it; where not, nothing is sent. -/
theorem offer_creating {credential : Credential} {before : Session}
    (asks : operation.handle.CanAsk credential)
    (buildable : ∃ request, operation.request = .ok request)
    (there : before.peer ≠ .unreachable) (date : before.now.IsDate)
    (stays : ¬ before.peer.Redirects) :
    (Request.isUsableUrl operation.asked.url = true ∧
        ∃ action after, operation.Exchanges before after [] (some action) ∧
          ((action.Acknowledges ∧ ∃ outcome, operation.offer before = (.ok outcome, after)) ∨
            (¬ action.Acknowledges ∧
              ∃ error, operation.offer before = (.error (.error error), after)))) ∨
      (Request.isUsableUrl operation.asked.url = false ∧
        ∃ error log, operation.offer before = (.error (.error error), { before with log })) := by
  have busy := isIdle_of_creates creating
  have sends := run_sends_iff_ready asks there busy
  have goesOn := offer_goesOn asks date
  rcases operation.offer_cases before with ⟨nothing, -⟩ | ⟨-, failure, log, failed, -⟩ |
    ⟨-, passed, last, result, after, exchanges, meets, ended⟩
  · rw [← isIdle_iff, busy] at nothing
    cases nothing
  · refine Or.inr ⟨?_, ?_⟩
    · cases usable : Request.isUsableUrl operation.asked.url with
      | false => rfl
      | true =>
          obtain ⟨received, sent⟩ := sends.mpr ⟨buildable, usable, date⟩
          rw [← offer_received, failed] at sent
          simp at sent
    · cases failure with
      | stopped message => exact absurd (congrArg Prod.fst failed) (goesOn message)
      | error error => exact ⟨error, log, failed⟩
  · have usable : Request.isUsableUrl operation.asked.url = true := by
      obtain ⟨prepared, -, sent⟩ := exchanges.arrived
      rw [show after = (operation.offer before).2 by rw [ended], offer_received] at sent
      exact (sends.mp ⟨_, sent⟩).2.usable
    obtain ⟨rfl, action, rfl⟩ := exchanges.direct stays
    refine Or.inl ⟨usable, action, after, exchanges, ?_⟩
    cases action with
    | hangUp =>
        obtain ⟨url, rfl⟩ := meets
        exact Or.inr ⟨id, _, ended⟩
    | reply reply =>
        have status := accepts_of_creates creating reply.status
        rcases meets with ⟨accepted, rfl⟩ | ⟨refused, report, -, rfl⟩
        · rw [read_of_creates creating] at ended
          exact Or.inl ⟨status.mp accepted, _, ended⟩
        · exact Or.inr ⟨fun acknowledges => refused (status.mpr acknowledges), _, ended⟩

end Creating

end Operation

end FileShare
