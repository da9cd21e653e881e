import FileShare.Proofs.Storage.Delivery
import FileShare.Proofs.Storage.Journey

/-!
# What an operation comes to

An operation leaves the peer alone, or its request arrives once and meets the next action of
the peer.  A reply that sends the client elsewhere makes it go there with another request, and
so on, up to ten times; the reply at the end then counts as the answer.  The operation succeeds
on an accepted status only, or at once where nothing is to be read.  The words of the service
are reported for every other status, as they arrived.  What is refused for its arguments is
never sent.
-/

set_option autoImplicit false

namespace FileShare

inductive Outcome where
  | created (result : Created)
  | deleted (result : Deleted)
  | content (bytes : Bytes)
  | properties (result : FileProperties)
deriving DecidableEq, Repr

namespace Reply

/-- The first value of a name, without the blanks around it, if it can be read. -/
def firstText? (reply : Reply) (name : Text) : Option Text :=
  ((reply.fields.first? name).map (Text.trimBy isFieldBlank)).bind Field.readText?

theorem text?_seen (reply : Reply) (method : Text) {name : Text} (other : name ≠ "content-length") :
    (reply.seen method).fields.text? name = reply.firstText? name := by
  rw [Fields.text?, Fields.first?, reply.values_seen method other, firstText?, Fields.first?,
    List.head?_map]

/-- The report repeats what the reply says; of a body that was cut short it says nothing. -/
structure IsReported (reply : Reply) (method : Text) (report : ServiceReport) : Prop where
  status : report.status = reply.status
  code : report.code = (reply.firstText? "x-ms-error-code").getD []
  requestId : report.requestId = reply.firstText? "x-ms-request-id"
  message : report.message = (reply.seen method).body.elim [] Text.Utf8.decode

theorem isReported_ofResponse (reply : Reply) (method : Text) :
    reply.IsReported method (ServiceReport.ofResponse (reply.seen method)) := by
  constructor
  · exact reply.status_seen method
  · rw [ServiceReport.ofResponse, Fields.text, reply.text?_seen method (by decide)]
  · exact reply.text?_seen method (by decide)
  · rw [ServiceReport.ofResponse]
    cases (reply.seen method).body with
    | none => rfl
    | some bytes => rfl

end Reply

/-! ## One exchange at most -/

/-- The peer has received nothing and has done nothing. -/
structure Session.Untouched (before after : Session) : Prop where
  received : after.received = before.received
  followed : after.followed = before.followed
  peer : after.peer = before.peer

namespace Pipeline

theorem prepare_noReport {pipeline : Pipeline} {now : Instant} {request : Request}
    {failure : Failure} (refused : pipeline.prepare now request = .error failure)
    (report : ServiceReport) : failure ≠ .error (.service report) := by
  rintro rfl
  simp only [prepare] at refused
  split at refused
  · cases refused
  · simp only [Request.authorize, fieldValue] at refused
    split at refused
    · cases refused
    · split at refused
      · rename_i invalid
        split at invalid
        · cases invalid
        · cases invalid
          cases refused
      · cases refused

/-- Sending fails with the peer left alone, and then not with its words, or it is one exchange
with a peer that is there. -/
theorem send_cases (pipeline : Pipeline) (request : Request) (expected : List Nat)
    (before : Session) :
    (∃ failure log, pipeline.send request expected before =
        (.error failure, { before with log }) ∧ ∀ report, failure ≠ .error (.service report)) ∨
      ∃ prepared log, pipeline.prepare before.now request = .ok prepared ∧
        prepared.Arrives before.peer ∧
        pipeline.send request expected before =
          (judge expected (prepared.journey pipeline.userAgent before).result,
            { before.passedBy prepared pipeline.userAgent with log }) := by
  cases success : pipeline.prepare before.now request with
  | error failure =>
      exact Or.inl ⟨failure, before.log, send_unprepared success expected,
        prepare_noReport success⟩
  | ok prepared =>
      by_cases arrives : prepared.Arrives before.peer
      · have there : prepared.Arrives (announcing prepared before).peer := arrives
        obtain ⟨log, sent⟩ := send_prepared success expected
          (exchange_arriving there pipeline.userAgent)
        exact Or.inr ⟨prepared, log, rfl, arrives, sent⟩
      · obtain ⟨fault, log, failed⟩ := send_missing success arrives expected
        exact Or.inl ⟨_, log, failed, fun report same => by cases same⟩

end Pipeline

namespace Operation

/-- The statuses that acknowledge the operation. -/
def Accepts (operation : Operation) (status : Nat) : Prop :=
  match operation with
  | .createShare .. | .createDirectory .. | .createFile .. | .uploadRange .. => status = 201
  | .deleteShare _ | .deleteDirectory _ | .deleteFile _ => status = 202
  | .fileProperties _ => status = 200
  | .download .. => status = 200 ∨ status = 206

theorem mem_expected (operation : Operation) (status : Nat) :
    status ∈ operation.expected ↔ operation.Accepts status := by
  cases operation <;>
    simp [expected, Accepts, Status.created, Status.accepted, Status.ok, Status.partialContent]

/-- The operation asks for no bytes. -/
def ReadsNothing (operation : Operation) : Prop :=
  ∃ file offset, operation = .download file offset (some 0)

theorem isIdle_iff (operation : Operation) :
    operation.isIdle = true ↔ operation.ReadsNothing := by
  constructor
  · intro idle
    cases operation with
    | download file offset count =>
        cases count with
        | none => simp [isIdle] at idle
        | some count =>
            have nothing : count = 0 := by simpa [isIdle] using idle
            exact ⟨file, offset, by rw [nothing]⟩
    | _ => simp [isIdle] at idle
  · rintro ⟨file, offset, rfl⟩
    rfl

/-- The request of the operation arrived.  The peer answered it, and what followed it, with
replies that sent the client elsewhere, and with the last action at the end; without one the
client did not get to where the last reply pointed. -/
structure Exchanges (operation : Operation) (before after : Session) (passed : List Reply)
    (last : Option PeerAction) : Prop where
  arrived : ∃ prepared, operation.Prepares before.now prepared ∧
    after.received = before.received ++ [prepared.received operation.pipeline.userAgent]
  answered : before.peer.Answers (passed.map .reply ++ last.toList) after.peer
  redirections : ∀ reply ∈ passed, reply.IsRedirection
  followed : ∃ further, after.followed = before.followed ++ further ∧
    further.length ≤ mostDetours ∧
    passed.length = further.length + (if last.isSome then 0 else 1) ∧
    ∀ received ∈ further, received.method = operation.method ∨ received.method = "GET".toList

/-- Everything that running an operation can come to. -/
theorem run_cases (operation : Operation) (before : Session) :
    (operation.isIdle = true ∧ operation.run before = (.ok none, before)) ∨
      (operation.isIdle = false ∧ ∃ failure log,
        operation.run before = (.error failure, { before with log }) ∧
          ∀ report, failure ≠ .error (.service report)) ∨
      (operation.isIdle = false ∧ ∃ passed last result after,
        operation.Exchanges before after passed last ∧
          Journey.Ends last operation.method result ∧
          operation.run before = ((Pipeline.judge operation.expected result).map some, after)) := by
  cases idle : operation.isIdle with
  | true => exact Or.inl ⟨rfl, by simp [run, idle]⟩
  | false =>
      refine Or.inr ?_
      cases built : operation.request with
      | error error =>
          refine Or.inl ⟨rfl, .error error, before.log, by simp [run, idle, built], ?_⟩
          rintro report ⟨⟩
          rw [request_eq] at built
          split at built
          · cases built
          · split at built
            · split at built <;> cases built
            · cases built
      | ok request =>
          -- Only here is anything sent, and actions are taken from the peer only if it arrives.
          rcases operation.pipeline.send_cases request operation.expected before with
            ⟨failure, log, sent, noReport⟩ | ⟨prepared, log, success, arrives, sent⟩
          · refine Or.inl ⟨rfl, failure, log, ?_, noReport⟩
            rw [run_sending idle built, sent]
            rfl
          · have prepares : operation.Prepares before.now prepared := ⟨request, built, success⟩
            obtain ⟨passed, last, passes, short⟩ := travel_passes before.detours
              operation.pipeline.userAgent mostDetours prepared arrives.reached
            rw [prepares.target.2] at passes
            let after : Session := { before.passedBy prepared operation.pipeline.userAgent with log }
            have exchanges : operation.Exchanges before after passed last :=
              ⟨⟨prepared, prepares, rfl⟩, passes.answers, passes.redirections,
                _, rfl, short, passes.followed, passes.methods⟩
            refine Or.inr ⟨rfl, passed, last, _, after, exchanges, passes.ends, ?_⟩
            rw [run_sending idle built, sent]
            rfl

def offer : Operation -> Run Failure Outcome
  | .createShare share metadata quotaGib => .created <$> share.create metadata quotaGib
  | .deleteShare share => .deleted <$> share.delete
  | .createDirectory directory metadata => .created <$> directory.create metadata
  | .deleteDirectory directory => .deleted <$> directory.delete
  | .createFile file size headers metadata => .created <$> file.create size headers metadata
  | .uploadRange file offset data => .created <$> file.uploadRange offset data
  | .download file offset count => .content <$> file.download offset count
  | .fileProperties file => .properties <$> file.properties
  | .deleteFile file => .deleted <$> file.delete

def read (operation : Operation) (response : Option Response) : Except Failure Outcome :=
  match operation with
  | .createShare .. | .createDirectory .. | .createFile .. | .uploadRange .. =>
      .ok (.created (response.elim (.ofResponse Status.created []) fun response =>
        .ofResponse response.status response.fields))
  | .deleteShare _ | .deleteDirectory _ | .deleteFile _ =>
      .ok (.deleted (response.elim (.ofResponse Status.accepted []) fun response =>
        .ofResponse response.status response.fields))
  | .download .. =>
      match response.elim (some []) (·.body) with
      | some bytes => .ok (.content bytes)
      | none => .error (.error (.transport .truncatedBody))
  | .fileProperties _ => .ok (.properties (.ofResponse (response.elim [] (·.fields))))

/-- What the operation writes into the log when it has its response. -/
def note? : Operation -> Option Text
  | .createShare share _ _ => some ("Created share " ++ share.name)
  | .deleteShare share => some ("Deleted share " ++ share.name)
  | _ => none

/-- What is left of the operation once it has its response. -/
def settle (operation : Operation) (response : Option Response) : Run Failure Outcome :=
  match operation.note? with
  | some text => logEntry .info text >>= fun _ => liftM (operation.read response)
  | none => liftM (operation.read response)

theorem offer_eq (operation : Operation) :
    operation.offer = operation.run >>= operation.settle := by
  funext session
  rcases ran : operation.run session with ⟨failure | response, after⟩
  · cases operation <;>
      simp [offer, Share.create, Share.delete, Directory.create, Directory.delete, File.create,
        File.uploadRange, File.download, File.properties, File.delete, runCreated, runDeleted, ran]
  · cases operation with
    | download file offset count =>
        rcases response with _ | response
        · simp [offer, File.download, ran, settle, note?, read]
        · cases body : response.body with
          | none => simp [offer, File.download, ran, settle, note?, read, body]
          | some bytes => simp [offer, File.download, ran, settle, note?, read, body]
    | _ =>
        simp [offer, Share.create, Share.delete, Directory.create, Directory.delete, File.create,
          File.uploadRange, File.properties, File.delete, runCreated, runDeleted, ran, settle,
          note?, read]

theorem error_of_read {operation : Operation} {response : Option Response} {failure : Failure}
    (failed : operation.read response = .error failure) :
    failure = .error (.transport .truncatedBody) := by
  cases operation with
  | download file offset count =>
      simp only [read] at failed
      split at failed
      · cases failed
      · exact (Except.error.inj failed).symm
  | _ => cases failed

theorem ok_of_read {operation : Operation} {response : Response} (whole : response.body ≠ none) :
    ∃ outcome, operation.read (some response) = .ok outcome := by
  cases operation with
  | download file offset count =>
      obtain ⟨bytes, body⟩ := Option.ne_none_iff_exists'.mp whole
      exact ⟨.content bytes, by simp [read, body]⟩
  | _ => exact ⟨_, rfl⟩

theorem settle_apply (operation : Operation) (response : Option Response) (before : Session) :
    ∃ log, operation.settle response before =
      (operation.read response, { before with log }) := by
  rw [settle]
  cases operation.note? with
  | none => exact ⟨before.log, rfl⟩
  | some text => exact ⟨_, rfl⟩

theorem offer_received (operation : Operation) (before : Session) :
    (operation.offer before).2.received = (operation.run before).2.received := by
  rw [offer_eq]
  apply Run.kept_bind Session.received
  intro response after
  obtain ⟨log, settled⟩ := operation.settle_apply response after
  rw [settled]

/-- What becomes of the operation when it ends with an action of the peer, or without one. -/
def Meets (operation : Operation) (last : Option PeerAction) (result : Except Failure Outcome) :
    Prop :=
  match last with
  | none => ∃ fault, result = .error (.error (.transport fault))
  | some .hangUp => ∃ url, result = .error (.error (.transport (.noReply url)))
  | some (.reply reply) =>
      (operation.Accepts reply.status ∧
          result = operation.read (some (reply.seen operation.method))) ∨
        (¬ operation.Accepts reply.status ∧ ∃ report, reply.IsReported operation.method report ∧
          result = .error (.error (.service report)))

theorem offer_cases (operation : Operation) (before : Session) :
    (operation.ReadsNothing ∧
        ∃ log, operation.offer before = (.ok (.content []), { before with log })) ∨
      (¬ operation.ReadsNothing ∧ ∃ failure log,
        operation.offer before = (.error failure, { before with log }) ∧
          ∀ report, failure ≠ .error (.service report)) ∨
      (¬ operation.ReadsNothing ∧ ∃ passed last result after,
        operation.Exchanges before after passed last ∧ operation.Meets last result ∧
          operation.offer before = (result, after)) := by
  rw [offer_eq]
  rcases operation.run_cases before with ⟨idle, ran⟩ | ⟨busy, failure, log, ran, noReport⟩ |
    ⟨busy, passed, last, result, after, exchanges, ends, ran⟩
  · obtain ⟨file, offset, rfl⟩ := operation.isIdle_iff.mp idle
    refine Or.inl ⟨⟨file, offset, rfl⟩, before.log, ?_⟩
    rw [Run.bind_apply, ran]
    rfl
  · refine Or.inr (Or.inl ⟨by simp [← isIdle_iff, busy], failure, log, ?_, noReport⟩)
    rw [Run.bind_apply, ran]
  · refine Or.inr (Or.inr ⟨by simp [← isIdle_iff, busy], passed, last, ?_⟩)
    rw [Run.bind_apply, ran]
    match last, ends with
    | none, ⟨fault, lost⟩ =>
        rw [lost]
        exact ⟨_, after, exchanges, ⟨fault, rfl⟩, rfl⟩
    | some .hangUp, ⟨url, lost⟩ =>
        rw [lost]
        exact ⟨_, after, exchanges, ⟨url, rfl⟩, rfl⟩
    | some (.reply reply), came =>
        obtain rfl : result = .ok (reply.seen operation.method) := came
        have status := reply.status_seen operation.method
        by_cases accepted : operation.Accepts reply.status
        · have expected : (reply.seen operation.method).status ∈ operation.expected := by
            rwa [status, mem_expected]
          obtain ⟨log, settled⟩ :=
            operation.settle_apply (some (reply.seen operation.method)) after
          refine ⟨operation.read (some (reply.seen operation.method)), { after with log },
            ⟨exchanges.arrived, exchanges.answered, exchanges.redirections, exchanges.followed⟩,
            Or.inl ⟨accepted, rfl⟩, ?_⟩
          simp only [Pipeline.judge, List.contains_iff_mem, expected, if_true, Except.map, settled]
        · have other : ¬ (reply.seen operation.method).status ∈ operation.expected := by
            rwa [status, mem_expected]
          refine ⟨_, after, exchanges,
            Or.inr ⟨accepted, _, reply.isReported_ofResponse operation.method, rfl⟩, ?_⟩
          simp only [Pipeline.judge, List.contains_iff_mem, other, if_false, Except.map]

theorem not_isRedirection_of_accepts {operation : Operation} {reply : Reply}
    (accepted : operation.Accepts reply.status) : ¬ reply.IsRedirection := by
  have small : reply.status < 300 := by
    cases operation <;> simp only [Accepts] at accepted <;> omega
  exact reply.not_isRedirection_of_small small

namespace Exchanges

variable {operation : Operation} {before after : Session}
variable {passed others : List Reply} {last final : Option PeerAction}

theorem not_untouched (exchanges : operation.Exchanges before after passed last) :
    ¬ before.Untouched after := by
  intro untouched
  obtain ⟨prepared, -, received⟩ := exchanges.arrived
  rw [untouched.received] at received
  simp at received

/-- An exchange in which no reply was passed over took one action and no other request. -/
theorem single {action : PeerAction} (exchanges : operation.Exchanges before after [] (some action)) :
    before.peer.answer = (some action, after.peer) ∧ after.followed = before.followed := by
  obtain ⟨further, followed, -, length, -⟩ := exchanges.followed
  have nothing : further = [] := List.length_eq_zero_iff.mp (by simpa using length.symm)
  rw [nothing, List.append_nil] at followed
  exact ⟨Peer.Answers.single_iff.mp exchanges.answered, followed⟩

/-- Where the next reply sends nobody elsewhere, the exchange ends with it. -/
theorem direct (exchanges : operation.Exchanges before after passed last)
    (stays : ¬ before.peer.Redirects) : passed = [] ∧ ∃ action, last = some action := by
  cases passed with
  | cons reply rest =>
      have redirects := exchanges.redirections reply List.mem_cons_self
      exact absurd ⟨.reply reply, exchanges.answered.first, redirects⟩ stays
  | nil =>
      obtain ⟨further, -, -, length, -⟩ := exchanges.followed
      cases last with
      | none => simp at length
      | some action => exact ⟨rfl, action, rfl⟩

/-- Where the next reply sends nobody elsewhere, no other request follows. -/
theorem quiet (exchanges : operation.Exchanges before after passed last)
    (stays : ¬ before.peer.Redirects) : after.followed = before.followed := by
  obtain ⟨rfl, action, rfl⟩ := exchanges.direct stays
  exact exchanges.single.2

/-- The peer takes one action for the request and one for each that follows. -/
theorem length_answers (exchanges : operation.Exchanges before after passed last) :
    ∃ further, after.followed = before.followed ++ further ∧
      (passed.map PeerAction.reply ++ last.toList).length = further.length + 1 := by
  obtain ⟨further, followed, -, length, -⟩ := exchanges.followed
  refine ⟨further, followed, ?_⟩
  rw [List.length_append, List.length_map, length]
  cases last with
  | none => rfl
  | some action => rfl

/-- The reply at the end is known by the sessions alone, unless it sends the client elsewhere. -/
theorem last_eq {reply : Reply} (exchanges : operation.Exchanges before after passed last)
    (other : operation.Exchanges before after others (some (.reply reply)))
    (stays : ¬ reply.IsRedirection) : last = some (.reply reply) := by
  obtain ⟨further, followed, length⟩ := exchanges.length_answers
  obtain ⟨again, same, whole⟩ := other.length_answers
  obtain rfl := List.append_cancel_left (followed.symm.trans same)
  -- Both lists of actions belong to one script, and they are equally long.
  have actions : passed.map PeerAction.reply ++ last.toList =
      others.map PeerAction.reply ++ [PeerAction.reply reply] := by
    rcases exchanges.answered.agree other.answered with shorter | longer
    · exact shorter.eq_of_length (length.trans whole.symm)
    · exact (longer.eq_of_length (whole.trans length.symm)).symm
  cases last with
  | some action =>
      rw [Option.toList_some] at actions
      have ends := List.append_inj_right' actions rfl
      exact congrArg some (List.singleton_inj.mp ends)
  | none =>
      rw [Option.toList_none, List.append_nil] at actions
      have member : PeerAction.reply reply ∈ passed.map PeerAction.reply := by
        rw [actions]
        exact List.mem_append_right _ List.mem_cons_self
      obtain ⟨met, place, same⟩ := List.mem_map.mp member
      obtain rfl := PeerAction.reply.inj same
      exact absurd (exchanges.redirections met place) stays

end Exchanges

/-- Running an operation adds one request of its own at most to what the peer has received, and
some to which it was sent on; none of these where the next reply sends nobody elsewhere. -/
theorem run_wire (operation : Operation) (before : Session) :
    ∃ sent further, (operation.run before).2.wire =
        (before.received ++ sent, before.followed ++ further) ∧ sent.length ≤ 1 ∧
      (∀ received ∈ sent, received.method = operation.method) ∧
      (∀ received ∈ further,
        received.method = operation.method ∨ received.method = "GET".toList) ∧
      (¬ before.peer.Redirects → further = []) := by
  have nothing : before.wire = (before.received ++ [], before.followed ++ []) := by
    rw [Session.wire, List.append_nil, List.append_nil]
  rcases operation.run_cases before with ⟨-, ran⟩ | ⟨-, failure, log, ran, -⟩ |
    ⟨-, passed, last, result, after, exchanges, -, ran⟩
  · rw [ran]
    exact ⟨[], [], nothing, Nat.zero_le 1, List.forall_mem_nil _, List.forall_mem_nil _,
      fun _ => rfl⟩
  · rw [ran]
    exact ⟨[], [], nothing, Nat.zero_le 1, List.forall_mem_nil _, List.forall_mem_nil _,
      fun _ => rfl⟩
  · rw [ran]
    obtain ⟨prepared, prepares, received⟩ := exchanges.arrived
    obtain ⟨further, followed, -, -, methods⟩ := exchanges.followed
    refine ⟨_, further, Prod.ext received followed, Nat.le_refl 1,
      List.forall_mem_singleton.mpr prepares.target.2, methods, fun stays => ?_⟩
    exact List.append_right_eq_self.mp (followed.symm.trans (exchanges.quiet stays))

/-- An operation sends one request of its own at most, and its result tells how that ended:
nothing was sent, or the reply at the end was accepted, or it was not and its words are
reported.  Where the next reply sends nobody elsewhere, no other request follows, and that reply
is the only one that is taken. -/
structure SingleShot (operation : Operation) (before : Session)
    (result : Except Failure Outcome) (after : Session) : Prop where
  once : before.Untouched after ∨ ∃ passed last, operation.Exchanges before after passed last
  direct : ¬ before.peer.Redirects → after.followed = before.followed ∧
    ∀ passed last, operation.Exchanges before after passed last →
      passed = [] ∧ ∃ action, last = some action ∧ before.peer.answer = (some action, after.peer)
  idle : operation.ReadsNothing → result = .ok (.content []) ∧ before.Untouched after
  success : ∀ outcome, result = .ok outcome → ¬ operation.ReadsNothing →
    ∃ passed reply, operation.Exchanges before after passed (some (.reply reply)) ∧
      operation.Accepts reply.status
  service : ∀ report, result = .error (.error (.service report)) →
    ∃ passed reply, operation.Exchanges before after passed (some (.reply reply)) ∧
      ¬ operation.Accepts reply.status ∧ reply.IsReported operation.method report
  input : ∀ fault, result = .error (.error (.input fault)) → before.Untouched after
  /-- Only a body that is cut short can still spoil a reply that was accepted. -/
  acknowledged : ∀ passed reply,
    operation.Exchanges before after passed (some (.reply reply)) →
    operation.Accepts reply.status → (reply.seen operation.method).body ≠ none →
    ∃ outcome, result = .ok outcome
  refused : ∀ passed reply, operation.Exchanges before after passed (some (.reply reply)) →
    ¬ operation.Accepts reply.status → ¬ reply.IsRedirection →
    ∃ report, result = .error (.error (.service report))

namespace SingleShot

variable {operation : Operation} {before after : Session}

theorem of_nothing (nothing : operation.ReadsNothing) (untouched : before.Untouched after) :
    operation.SingleShot before (.ok (.content [])) after where
  once := Or.inl untouched
  direct := fun _ => ⟨untouched.followed, fun _ _ exchanges =>
    absurd untouched exchanges.not_untouched⟩
  idle := fun _ => ⟨rfl, untouched⟩
  success := fun _ _ busy => absurd nothing busy
  service := fun _ reported => by cases reported
  input := fun _ _ => untouched
  acknowledged := fun _ _ exchanges => absurd untouched exchanges.not_untouched
  refused := fun _ _ exchanges => absurd untouched exchanges.not_untouched

theorem of_unsent {failure : Failure} (busy : ¬ operation.ReadsNothing)
    (untouched : before.Untouched after)
    (noReport : ∀ report, failure ≠ .error (.service report)) :
    operation.SingleShot before (.error failure) after where
  once := Or.inl untouched
  direct := fun _ => ⟨untouched.followed, fun _ _ exchanges =>
    absurd untouched exchanges.not_untouched⟩
  idle := fun nothing => absurd nothing busy
  success := fun _ succeeded => by cases succeeded
  service := fun report reported => absurd (Except.error.inj reported) (noReport report)
  input := fun _ _ => untouched
  acknowledged := fun _ _ exchanges => absurd untouched exchanges.not_untouched
  refused := fun _ _ exchanges => absurd untouched exchanges.not_untouched

section Exchanging

variable {passed : List Reply} {last : Option PeerAction}
variable (busy : ¬ operation.ReadsNothing)
variable (exchanges : operation.Exchanges before after passed last)
include exchanges

theorem direct_of_exchanges (stays : ¬ before.peer.Redirects) :
    after.followed = before.followed ∧
      ∀ passed last, operation.Exchanges before after passed last →
        passed = [] ∧ ∃ action, last = some action ∧
          before.peer.answer = (some action, after.peer) := by
  refine ⟨exchanges.quiet stays, fun passed last other => ?_⟩
  obtain ⟨rfl, action, rfl⟩ := other.direct stays
  exact ⟨rfl, action, rfl, other.single.1⟩

include busy

/-- Whatever cut the exchange short, it is a matter of the connection. -/
theorem of_transport {fault : TransportFault} (noReply : ∀ reply, last ≠ some (.reply reply)) :
    operation.SingleShot before (.error (.error (.transport fault))) after where
  once := Or.inr ⟨_, _, exchanges⟩
  direct := direct_of_exchanges exchanges
  idle := fun nothing => absurd nothing busy
  success := fun _ succeeded => by cases succeeded
  service := fun _ reported => by cases reported
  input := fun _ invalid => by cases invalid
  acknowledged := fun _ reply other accepted => absurd
    (exchanges.last_eq other (not_isRedirection_of_accepts accepted)) (noReply reply)
  refused := fun _ reply other _ stays => absurd (exchanges.last_eq other stays) (noReply reply)

theorem of_accepted {reply : Reply} (same : last = some (.reply reply))
    (accepted : operation.Accepts reply.status) :
    operation.SingleShot before (operation.read (some (reply.seen operation.method))) after where
  once := Or.inr ⟨_, _, exchanges⟩
  direct := direct_of_exchanges exchanges
  idle := fun nothing => absurd nothing busy
  success := fun _ _ _ => ⟨passed, reply, same ▸ exchanges, accepted⟩
  service := fun _ reported => by cases error_of_read reported
  input := fun _ invalid => by cases error_of_read invalid
  acknowledged := by
    intro others other exchanged agreed whole
    have last := same.symm.trans
      (exchanges.last_eq exchanged (not_isRedirection_of_accepts agreed))
    obtain rfl := PeerAction.reply.inj (Option.some.inj last)
    exact ok_of_read whole
  refused := by
    intro others other exchanged refused stays
    have last := same.symm.trans (exchanges.last_eq exchanged stays)
    obtain rfl := PeerAction.reply.inj (Option.some.inj last)
    exact absurd accepted refused

theorem of_refused {reply : Reply} {report : ServiceReport} (same : last = some (.reply reply))
    (refused : ¬ operation.Accepts reply.status)
    (reported : reply.IsReported operation.method report) :
    operation.SingleShot before (.error (.error (.service report))) after where
  once := Or.inr ⟨_, _, exchanges⟩
  direct := direct_of_exchanges exchanges
  idle := fun nothing => absurd nothing busy
  success := fun _ succeeded => by cases succeeded
  service := by
    intro other again
    cases again
    exact ⟨passed, reply, same ▸ exchanges, refused, reported⟩
  input := fun _ invalid => by cases invalid
  acknowledged := by
    intro others other exchanged accepted
    have last := same.symm.trans
      (exchanges.last_eq exchanged (not_isRedirection_of_accepts accepted))
    obtain rfl := PeerAction.reply.inj (Option.some.inj last)
    exact absurd accepted refused
  refused := fun _ _ _ _ _ => ⟨report, rfl⟩

end Exchanging

end SingleShot

end Operation

/-- Every operation on every handle, whatever the peer does: one request of its own at most, a
success only on an accepted status, the service's own words only for another one, and nothing
sent where the arguments are at fault.  Unless the next reply sends the client elsewhere, no
other request follows. -/
theorem operation_single_shot (operation : Operation) (before : Session) :
    operation.SingleShot before (operation.offer before).1 (operation.offer before).2 := by
  rcases operation.offer_cases before with ⟨nothing, log, offered⟩ |
    ⟨busy, failure, log, offered, noReport⟩ |
    ⟨busy, passed, last, result, after, exchanges, meets, offered⟩
  · rw [offered]
    exact .of_nothing nothing ⟨rfl, rfl, rfl⟩
  · rw [offered]
    exact .of_unsent busy ⟨rfl, rfl, rfl⟩ noReport
  · rw [offered]
    match last, meets with
    | none, ⟨fault, lost⟩ =>
        rw [lost]
        exact .of_transport busy exchanges fun _ same => by cases same
    | some .hangUp, ⟨url, lost⟩ =>
        rw [lost]
        exact .of_transport busy exchanges fun _ same => by cases same
    | some (.reply reply), .inl ⟨accepted, came⟩ =>
        rw [came]
        exact .of_accepted busy exchanges rfl accepted
    | some (.reply reply), .inr ⟨refused, report, reported, came⟩ =>
        rw [came]
        exact .of_refused busy exchanges rfl refused reported

example :
    ((Operation.deleteShare (Service.sample.share "files")).offer
      { Session.silentSample with
        peer := .scripted
          [.reply
            { status := 404, body := Text.asciiBytes "gone"
              fields := [⟨"x-ms-error-code", Text.asciiBytes " ShareNotFound"⟩,
                ⟨"content-length", Text.asciiBytes "9"⟩] }] .hangUp }).1 =
      .error (.error (.service ⟨404, "ShareNotFound", [], none⟩)) := by
  rfl

/-! ## A client that is sent elsewhere -/

/-- A client that goes to `/other` on the same host with the request as it was, and says where it
comes from. -/
def Detours.otherSample : Detours := fun _ url _ =>
  some
    { url := { url with path := .segments ["other"], query := some "restype=share", fragment := none }
      asksAnew := false
      keeps := fun _ => true
      adds := [⟨"referer", Text.Utf8.encode url.withoutUserInfo.withoutFragment.toText⟩] }

/-- A reply that sends the client there. -/
def Reply.elsewhereSample : Reply :=
  { status := 307
    fields := [⟨"location", Text.asciiBytes "/other?restype=share"⟩]
    body := [] }

/-- A session in which the first request is sent there and the second one is answered. -/
def Session.elsewhereSample (status : Nat) : Session :=
  { silentSample with
    peer := .scripted [.reply .elsewhereSample, .reply ⟨status, [], []⟩] .hangUp
    detours := .otherSample }

/-- One deletion, two requests and two replies: the first reply is no acknowledgement, and the
operation succeeds. -/
theorem operation_sent_elsewhere :
    ∃ first second result after,
      (Operation.deleteShare (Service.signingSample.share "files")).offer (.elsewhereSample 202) =
          (.ok (.deleted result), after) ∧
        after.received = [first] ∧ first.method = "DELETE".toList ∧
        after.followed = [second] ∧ second.method = "DELETE".toList ∧
        after.peer = .scripted [] .hangUp := by
  have met :
      let sent := (Operation.deleteShare (Service.signingSample.share "files")).offer
        (.elsewhereSample 202)
      sent.1.toOption = some (.deleted ⟨202, none⟩) ∧
        sent.2.received.map (·.method) = ["DELETE".toList] ∧
        sent.2.followed.map (·.method) = ["DELETE".toList] ∧
        sent.2.peer = .scripted [] .hangUp := by decide +kernel
  rcases ran : (Operation.deleteShare (Service.signingSample.share "files")).offer
    (.elsewhereSample 202) with ⟨result, after⟩
  rw [ran] at met
  obtain ⟨succeeded, arrived, followed, done⟩ := met
  obtain rfl : result = _ := ok_of_toOption succeeded
  obtain ⟨first, received, asked⟩ := List.map_eq_singleton_iff.mp arrived
  obtain ⟨second, further, again⟩ := List.map_eq_singleton_iff.mp followed
  exact ⟨first, second, _, after, rfl, received, asked, further, again, done⟩

end FileShare
