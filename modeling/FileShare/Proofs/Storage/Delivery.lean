import FileShare.Proofs.Storage.Operation
import FileShare.Proofs.Storage.Signature

/-!
# Requests that arrive

A request arrives if it can be built and prepared and the peer is there.  The operation
then may fail for what the peer answers, but it does not stop, and it cannot have
succeeded in any other way.
-/

set_option autoImplicit false

namespace FileShare

namespace Pipeline

variable {pipeline : Pipeline} {request prepared : Request} {expected : List Nat}
variable {session : Session}

theorem send_arriving (success : pipeline.prepare session.now request = .ok prepared)
    (arrives : prepared.Arrives session.peer) (expected : List Nat) :
    (pipeline.send request expected session).2.received =
        session.received ++ [prepared.received pipeline.userAgent] ∧
      ∀ message, (pipeline.send request expected session).1 ≠ .error (.stopped message) := by
  have there : prepared.Arrives (announcing prepared session).peer := arrives
  obtain ⟨log, sent⟩ := send_prepared success expected
    (exchange_arriving there pipeline.userAgent)
  rw [sent]
  exact ⟨rfl, judge_goesOn _ _⟩

theorem send_missing (success : pipeline.prepare session.now request = .ok prepared)
    (missing : ¬ prepared.Arrives session.peer) (expected : List Nat) :
    ∃ fault log, pipeline.send request expected session =
      (.error (.error (.transport fault)), { session with log }) := by
  have absent : ¬ prepared.Arrives (announcing prepared session).peer := missing
  obtain ⟨fault, lost⟩ := exchange_missing absent pipeline.userAgent
  obtain ⟨log, failed⟩ := send_prepared success expected lost
  exact ⟨fault, log, failed⟩

theorem arrives_of_send {response : Response}
    (sent : (pipeline.send request expected session).1 = .ok response) :
    ∃ prepared, pipeline.prepare session.now request = .ok prepared ∧
      prepared.Arrives session.peer := by
  cases success : pipeline.prepare session.now request with
  | error failure =>
      rw [send_unprepared success] at sent
      cases sent
  | ok prepared =>
      by_cases arrives : prepared.Arrives session.peer
      · exact ⟨prepared, rfl, arrives⟩
      · obtain ⟨fault, log, failed⟩ := send_missing success arrives expected
        rw [failed] at sent
        cases sent

end Pipeline

theorem Pipeline.prepare_target {pipeline : Pipeline} {now : Instant} {request prepared : Request}
    (success : pipeline.prepare now request = .ok prepared) :
    prepared.url = request.url ∧ prepared.method = request.method := by
  have announced : request.announced.url = request.url ∧
      request.announced.method = request.method := by
    rw [Request.announced]
    split
    · exact ⟨rfl, rfl⟩
    · exact ⟨rfl, rfl⟩
  rw [prepare] at success
  split at success
  · cases success
    exact announced
  · rw [Request.eq_of_authorize success]
    exact announced

theorem Pipeline.prepare_undated {pipeline : Pipeline} {credential : Credential}
    (signs : pipeline.credential = some credential) {now : Instant} (noDate : ¬ now.IsDate)
    (request : Request) : ∃ message, pipeline.prepare now request = .error (.stopped message) := by
  obtain ⟨message, stopped⟩ := Request.authorize_undated noDate request.announced credential
  exact ⟨message, by rw [prepare, signs]; exact stopped⟩

namespace Operation

variable {operation : Operation} {session : Session} {prepared : Request}

def Prepares (operation : Operation) (now : Instant) (prepared : Request) : Prop :=
  ∃ request, operation.request = .ok request ∧
    operation.pipeline.prepare now request = .ok prepared

def arrival (operation : Operation) (now : Instant) : Except Failure Received :=
  match operation.request with
  | .error error => .error (.error error)
  | .ok request =>
      (operation.pipeline.prepare now request).map fun prepared =>
        prepared.received operation.pipeline.userAgent

theorem Prepares.arrival {now : Instant} (prepares : operation.Prepares now prepared) :
    operation.arrival now = .ok (prepared.received operation.pipeline.userAgent) := by
  obtain ⟨request, built, success⟩ := prepares
  simp only [Operation.arrival, built, success]
  rfl

theorem asked_method (operation : Operation) : operation.asked.method = operation.method := by
  have bare : (Request.bare operation.method operation.url).method = operation.method := by
    rw [Request.bare]
    split
    · rfl
    · rfl
  rw [asked]
  split
  · exact bare
  · exact bare

theorem Prepares.target {now : Instant} (prepares : operation.Prepares now prepared) :
    prepared.url = operation.asked.url ∧ prepared.method = operation.method := by
  obtain ⟨request, built, success⟩ := prepares
  obtain ⟨url, method⟩ := Pipeline.prepare_target success
  obtain ⟨pairs, -, rfl⟩ := request_ok built
  exact ⟨url, method.trans operation.asked_method⟩

theorem run_arriving (prepares : operation.Prepares session.now prepared)
    (busy : operation.isIdle = false) (arrives : prepared.Arrives session.peer) :
    (operation.run session).2.received =
        session.received ++ [prepared.received operation.pipeline.userAgent] ∧
      ∀ message, (operation.run session).1 ≠ .error (.stopped message) := by
  obtain ⟨request, built, success⟩ := prepares
  obtain ⟨received, goesOn⟩ := Pipeline.send_arriving success arrives operation.expected
  rw [run_sending busy built]
  refine ⟨received, fun message stopped => goesOn message ?_⟩
  exact error_of_map stopped

theorem run_missing
    (missing : ∀ prepared, operation.Prepares session.now prepared →
      ¬ prepared.Arrives session.peer) :
    (operation.run session).2.received = session.received := by
  rcases operation.run_rests_or_sends session with ⟨rests, -⟩ | ⟨request, built, sends⟩
  · exact congrArg Session.received rests
  · rw [sends]
    cases success : operation.pipeline.prepare session.now request with
    | error failure => rw [Pipeline.send_unprepared success]
    | ok prepared =>
        obtain ⟨fault, log, failed⟩ := Pipeline.send_missing success
          (missing prepared ⟨request, built, success⟩) operation.expected
        rw [failed]

/-- One request is received if it was prepared and arrived, and it is that one. -/
theorem run_sends_iff (busy : operation.isIdle = false) {received : Received} :
    (operation.run session).2.received = session.received ++ [received] ↔
      ∃ prepared, operation.Prepares session.now prepared ∧ prepared.Arrives session.peer ∧
        received = prepared.received operation.pipeline.userAgent := by
  constructor
  · intro sent
    by_cases missing : ∀ prepared, operation.Prepares session.now prepared →
        ¬ prepared.Arrives session.peer
    · rw [run_missing missing] at sent
      exact absurd sent (by simp)
    · simp only [Classical.not_forall, Classical.not_not] at missing
      obtain ⟨prepared, prepares, arrives⟩ := missing
      rw [(run_arriving prepares busy arrives).1] at sent
      have same := List.append_cancel_left sent
      exact ⟨prepared, prepares, arrives, (List.cons.inj same).1.symm⟩
  · rintro ⟨prepared, prepares, arrives, rfl⟩
    exact (run_arriving prepares busy arrives).1

theorem arrives_of_run {response : Option Response} (busy : operation.isIdle = false)
    (ran : (operation.run session).1 = .ok response) :
    ∃ prepared, operation.Prepares session.now prepared ∧ prepared.Arrives session.peer := by
  cases built : operation.request with
  | error error => simp [run, busy, built] at ran
  | ok request =>
      rw [run_sending busy built] at ran
      cases sent : (operation.pipeline.send request operation.expected session).1 with
      | error failure =>
          rw [sent] at ran
          cases ran
      | ok response =>
          obtain ⟨prepared, success, arrives⟩ := Pipeline.arrives_of_send sent
          exact ⟨prepared, ⟨request, built, success⟩, arrives⟩

theorem Prepares.isSigned {credential : Credential} {now : Instant}
    (prepares : operation.Prepares now prepared)
    (signs : operation.pipeline.credential = some credential) :
    (prepared.received operation.pipeline.userAgent).IsSigned operation.arrivalUrl credential := by
  obtain ⟨request, built, success⟩ := prepares
  rw [Pipeline.prepare, signs] at success
  exact prepared_isSigned built success operation.pipeline.userAgent

/-- What can be asked for is prepared at every date, for an account that can be named in a
field. -/
theorem prepares_of_named {request : Request} {credential : Credential} {now : Instant}
    (signs : operation.pipeline.credential = some credential)
    (named : Field.isValue (Text.Utf8.encode credential.accountName) = true)
    (built : operation.request = .ok request) (date : now.IsDate) :
    ∃ signed, operation.Prepares now signed := by
  have signed : operation.pipeline.prepare now request =
      request.announced.authorize credential now := by
    rw [Pipeline.prepare, signs]
  exact ⟨_, request, built, signed.trans (Request.authorize_of_named named date _)⟩

/-- A request that was signed once can be signed at every other date, and so can any other
request for the account. -/
theorem prepares_of_signed {other : Operation} {request : Request} {credential : Credential}
    {now later : Instant} (prepares : operation.Prepares now prepared)
    (signs : operation.pipeline.credential = some credential)
    (built : other.request = .ok request) (same : other.pipeline = operation.pipeline)
    (date : later.IsDate) :
    ∃ signed, other.Prepares later signed := by
  obtain ⟨first, -, success⟩ := prepares
  rw [Pipeline.prepare, signs] at success
  exact prepares_of_named (same ▸ signs) (Request.named_of_authorize success).2 built date

theorem run_undated {credential : Credential}
    (signs : operation.pipeline.credential = some credential)
    (noDate : ¬ session.now.IsDate) :
    (operation.run session).2.wire = session.wire := by
  rcases operation.run_delivers session with nothing | ⟨request, prepared, -, success, -⟩
  · exact nothing
  · obtain ⟨message, stopped⟩ := Pipeline.prepare_undated signs noDate request
    rw [stopped] at success
    cases success

theorem run_undated_stops {credential : Credential} {request : Request}
    (signs : operation.pipeline.credential = some credential)
    (built : operation.request = .ok request) (busy : operation.isIdle = false)
    (noDate : ¬ session.now.IsDate) :
    ∃ message, operation.run session = (.error (.stopped message), session) := by
  obtain ⟨message, stopped⟩ := Pipeline.prepare_undated signs noDate request
  have sent := Pipeline.send_unprepared stopped operation.expected
  exact ⟨message, by simp [run, busy, built, sent]⟩

end Operation

end FileShare
