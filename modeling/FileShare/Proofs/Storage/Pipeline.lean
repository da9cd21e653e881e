import FileShare.Proofs.Session
import FileShare.Storage.Pipeline

/-!
# What sending a request does

An exchange fails without a trace, or the request arrives and the peer receives it once.  What
comes of it then, and which other requests the client makes when a reply sends it elsewhere, is
its journey.  Sending prepares the request first, which may fail with nothing sent, and judges
the status of the response.
-/

set_option autoImplicit false

namespace FileShare

/-- The client can use the URL of the request, and the peer is there. -/
structure Request.Arrives (request : Request) (peer : Peer) : Prop where
  usable : Request.isUsableUrl request.url = true
  reached : peer ≠ .unreachable

theorem Request.Arrives.of_url {first second : Request} {peer other : Peer}
    (arrives : first.Arrives peer) (same : second.url = first.url)
    (there : other ≠ .unreachable) : second.Arrives other :=
  ⟨same ▸ arrives.usable, there⟩

theorem Peer.obstacle?_eq_none_iff {peer : Peer} {request : Request} :
    peer.obstacle? request.url = none ↔ request.Arrives peer := by
  rw [obstacle?]
  cases usable : Request.isUsableUrl request.url with
  | false => exact iff_of_false (by simp) fun arrives => by simp [arrives.usable] at usable
  | true =>
      by_cases there : peer = .unreachable
      · exact iff_of_false (by simp [there]) fun arrives => arrives.reached there
      · exact iff_of_true (by simp [there]) ⟨usable, there⟩

def Request.journey (request : Request) (userAgent : Option Text) (session : Session) : Journey :=
  travel session.detours userAgent mostDetours request session.peer

def Session.passedBy (session : Session) (request : Request) (userAgent : Option Text) : Session :=
  { session with
    peer := (request.journey userAgent session).peer
    received := session.received ++ [request.received userAgent]
    followed := session.followed ++ (request.journey userAgent session).followed }

theorem exchange_missing {request : Request} {session : Session}
    (missing : ¬ request.Arrives session.peer) (userAgent : Option Text) :
    ∃ fault, exchange request userAgent session = (.error (.transport fault), session) := by
  rw [← Peer.obstacle?_eq_none_iff] at missing
  obtain ⟨fault, blocked⟩ := Option.ne_none_iff_exists'.mp missing
  exact ⟨fault, by simp [exchange, blocked]⟩

theorem exchange_arriving {request : Request} {session : Session}
    (arrives : request.Arrives session.peer) (userAgent : Option Text) :
    exchange request userAgent session =
      ((request.journey userAgent session).result, session.passedBy request userAgent) := by
  have free := Peer.obstacle?_eq_none_iff.mpr arrives
  simp [exchange, free, Request.journey, Session.passedBy]

/-- The peer receives the request once, or nothing at all. -/
theorem exchange_received (request : Request) (userAgent : Option Text) (session : Session) :
    (exchange request userAgent session).2.wire = session.wire ∨
      (exchange request userAgent session).2.received =
        session.received ++ [request.received userAgent] := by
  by_cases arrives : request.Arrives session.peer
  · exact Or.inr (by rw [exchange_arriving arrives]; rfl)
  · obtain ⟨fault, lost⟩ := exchange_missing arrives userAgent
    exact Or.inl (by rw [lost])

namespace Pipeline

def logLine (request : Request) : Text := request.method ++ ' ' :: request.url.toText

/-- A response is the result if its status is expected, and otherwise what the service
reports in it. -/
def judge (expected : List Nat) : Except StorageError Response -> Except Failure Response
  | .error error => .error (.error error)
  | .ok response =>
      if expected.contains response.status then .ok response
      else .error (.error (.service (ServiceReport.ofResponse response)))

theorem judge_goesOn (expected : List Nat) (result : Except StorageError Response)
    (message : Text) : judge expected result ≠ .error (.stopped message) := by
  cases result with
  | error error => exact fun stopped => by cases stopped
  | ok response =>
      rw [judge]
      split
      · exact fun stopped => by cases stopped
      · exact fun stopped => by cases stopped

theorem send_unprepared {pipeline : Pipeline} {request : Request} {session : Session}
    {failure : Failure} (refused : pipeline.prepare session.now request = .error failure)
    (expected : List Nat) : pipeline.send request expected session = (.error failure, session) := by
  simp [send, refused]

/-- The session in which a prepared request is exchanged. -/
def announcing (prepared : Request) (session : Session) : Session :=
  { session with log := session.log ++ [⟨.debug, logLine prepared⟩] }

/-- Sending a prepared request is one exchange, but for the log. -/
theorem send_prepared {pipeline : Pipeline} {request prepared : Request} {session : Session}
    (success : pipeline.prepare session.now request = .ok prepared) (expected : List Nat)
    {result : Except StorageError Response} {after : Session}
    (exchanged : exchange prepared pipeline.userAgent (announcing prepared session) =
      (result, after)) :
    ∃ log, pipeline.send request expected session =
      (judge expected result, { after with log }) := by
  rw [announcing, logLine] at exchanged
  cases result with
  | error error =>
      refine ⟨after.log, ?_⟩
      simp [send, success, exchanged, judge]
  | ok response =>
      by_cases wanted : response.status ∈ expected
      · exact ⟨_, by
          simp [send, success, exchanged, judge, wanted]
          rfl⟩
      · exact ⟨_, by
          simp [send, success, exchanged, judge, wanted]
          rfl⟩

/-- The peer receives the request as it was prepared, or nothing at all. -/
theorem send_received (pipeline : Pipeline) (request : Request) (expected : List Nat)
    (session : Session) :
    (pipeline.send request expected session).2.wire = session.wire ∨
      ∃ prepared, pipeline.prepare session.now request = .ok prepared ∧
        (pipeline.send request expected session).2.received =
          session.received ++ [prepared.received pipeline.userAgent] := by
  cases success : pipeline.prepare session.now request with
  | error failure => exact Or.inl (by rw [send_unprepared success])
  | ok prepared =>
      have received := exchange_received prepared pipeline.userAgent (announcing prepared session)
      obtain ⟨log, sent⟩ := send_prepared success expected
        (rfl : exchange prepared pipeline.userAgent (announcing prepared session) = _)
      rw [sent]
      rcases received with nothing | once
      · exact Or.inl nothing
      · exact Or.inr ⟨prepared, rfl, once⟩

end Pipeline

end FileShare
