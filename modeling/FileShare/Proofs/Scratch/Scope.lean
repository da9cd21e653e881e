import FileShare.Proofs.Config.Account
import FileShare.Proofs.Scratch.Naming
import FileShare.Proofs.Storage.Building
import FileShare.Proofs.Storage.Delivery
import FileShare.Scratch.Scope

/-!
# Scopes delete their share once

A scope that was entered has sent the request that creates its share, and no other of its own.
The request that deletes the share goes to the same URL through the same pipeline, so at any
date it can be signed, and it arrives whatever the peer then answers: one regular end sends
it once, and leaves nothing to do for the drop that follows.  An abandoned scope finds the same
share through the same variables and sends the same request.
-/

set_option autoImplicit false

namespace FileShare

/-! ## Runs that end -/

theorem Run.failed_bind {ε α β : Type} {next : α -> Run ε β}
    (goesOn : ∀ a session, ∃ b, (next a session).1 = .ok b) (run : Run ε α) (session : Session)
    (e : ε) : ((run >>= next) session).1 = .error e ↔ (run session).1 = .error e := by
  rw [bind_apply]
  rcases run session with ⟨failure | a, after⟩
  · exact ⟨fun same => by cases same; rfl, fun same => by cases same; rfl⟩
  · obtain ⟨b, same⟩ := goesOn a after
    simp [same]

theorem Share.delete_failed (share : Share) (session : Session) (failure : Failure) :
    (share.delete session).1 = .error failure ↔
      ((Operation.deleteShare share).run session).1 = .error failure := by
  rw [Share.delete, Run.failed_bind fun result session => ⟨result, by simp⟩,
    Operation.runDeleted, Run.failed_bind fun result session => ⟨_, rfl⟩]

/-- One request more was sent at most, and others followed only where the peer sends the client
elsewhere. -/
def Session.AddsOneAtMost (before after : Session) : Prop :=
  ∃ sent further, after.wire = (before.received ++ sent, before.followed ++ further) ∧
    sent.length ≤ 1 ∧ (¬ before.peer.Redirects → further = [])

theorem Session.AddsOneAtMost.of_same {before after : Session} (same : after.wire = before.wire) :
    before.AddsOneAtMost after := by
  refine ⟨[], [], ?_, Nat.zero_le 1, fun _ => rfl⟩
  rw [List.append_nil, List.append_nil]
  exact same

namespace Scratch

theorem discardShare_wire (share : Share) (session : Session) :
    (discardShare share session).2.wire =
      ((Operation.deleteShare share).run session).2.wire := by
  rw [discardShare, Run.kept_bind Session.wire, Run.attempt_apply, Share.delete_wire]
  intro result after
  split <;> rfl

theorem discardShare_adds (share : Share) (session : Session) :
    session.AddsOneAtMost (discardShare share session).2 := by
  obtain ⟨sent, further, wire, short, -, -, direct⟩ :=
    (Operation.deleteShare share).run_wire session
  exact ⟨sent, further, (discardShare_wire share session).trans wire, short, direct⟩

theorem discardShare_cases (share : Share) (session : Session) :
    (discardShare share session).1 = .ok () ∨
      ∃ message, ((Operation.deleteShare share).run session).1 = .error (.stopped message) ∧
        (discardShare share session).1 = .error (.stopped message) := by
  simp only [← Share.delete_failed]
  rcases deleted : share.delete session with ⟨(error | message) | result, after⟩
  · exact Or.inl (by simp [discardShare, deleted])
  · exact Or.inr ⟨message, by simp, by simp [discardShare, deleted]⟩
  · exact Or.inl (by simp [discardShare, deleted])

theorem nameShare_apply (service : Service) (start : Text) (session : Session) :
    (session.now.IsDate ∧ ∃ name, nameShare service start session =
        (.ok ⟨service.share name, name⟩, { session with sequence := session.sequence + 1 })) ∨
      ∃ failure, nameShare service start session = (.error failure, session) := by
  by_cases date : session.now.IsDate
  · have named := Naming.generateFor_of_isDate start (Naming.callerOf session.thread) session date
    refine Or.inl ⟨date, Naming.compose start (Naming.callerOf session.thread) session.now
      session.sequence, ?_⟩
    simp only [nameShare, Run.bind_apply, Naming.generate_apply, named]
    rfl
  · obtain ⟨failure, stopped⟩ := Naming.generateFor_of_not_isDate start
      (Naming.callerOf session.thread) session date
    refine Or.inr ⟨failure, ?_⟩
    simp only [nameShare, Run.bind_apply, Naming.generate_apply, stopped]

theorem requireCreated_wire (kind name : Text) (creation : Run Failure Created)
    (session : Session) :
    (requireCreated kind name creation session).2.wire = (creation session).2.wire := by
  rw [requireCreated, Run.kept_bind Session.wire, Run.attempt_apply]
  intro result after
  split
  · rfl
  · rfl
  · split <;> rfl

theorem created_of_requireCreated {kind name : Text} {creation : Run Failure Created}
    {session : Session} (required : (requireCreated kind name creation session).1 = .ok ()) :
    ∃ created, (creation session).1 = .ok created := by
  rw [requireCreated, Run.bind_apply, Run.attempt_apply] at required
  rcases made : (creation session).1 with (error | message) | created
  · rw [made] at required
    cases required
  · rw [made] at required
    cases required
  · exact ⟨created, rfl⟩

end Scratch

theorem Share.run_of_create {share : Share} {metadata : Option Metadata} {quotaGib : UInt32}
    {session : Session} {created : Created}
    (made : (share.create metadata quotaGib session).1 = .ok created) :
    ∃ response,
      ((Operation.createShare share metadata quotaGib).run session).1 = .ok response := by
  rcases ran : ((Operation.createShare share metadata quotaGib).run session).1 with
    failure | response
  · have failed : (share.create metadata quotaGib session).1 = .error failure := by
      rw [Share.create, Run.failed_bind fun result session => ⟨result, by simp⟩,
        Operation.runCreated, Run.failed_bind fun result session => ⟨_, rfl⟩, ran]
    rw [failed] at made
    cases made
  · exact ⟨response, rfl⟩

/-! ## Entering -/

/-- What the peer has received besides are requests with this method, and those to which one of
them was sent on. -/
def Session.ReceivedOnly (method : Text) (before after : Session) : Prop :=
  ∃ sent further, after.wire = (before.received ++ sent, before.followed ++ further) ∧
    ∀ received ∈ sent ++ further, received.method = method ∨ received.method = "GET".toList

theorem Session.ReceivedOnly.of_same {method : Text} {before after : Session}
    (same : after.wire = before.wire) : ReceivedOnly method before after := by
  refine ⟨[], [], ?_, List.forall_mem_nil _⟩
  rw [List.append_nil, List.append_nil]
  exact same

namespace Scratch

/-- The request that creates a share of this name was prepared and arrived. -/
structure Provides (service : Service) (name : Text) (session : Session) (prepared : Request) :
    Prop where
  date : session.now.IsDate
  prepares : (Operation.createShare (service.share name) none 0).Prepares session.now prepared
  arrives : prepared.Arrives session.peer

/-- Providing a share fails with nothing sent but a request to create it, or has sent one
that arrived. -/
theorem provideShare_cases (service : Service) (start : Text) (session : Session) :
    (∃ failure after, provideShare service start session = (.error failure, after) ∧
      session.ReceivedOnly "PUT" after) ∨
      ∃ name after prepared,
        provideShare service start session = (.ok ⟨service.share name, name⟩, after) ∧
        Provides service name session prepared ∧
        after.received = session.received ++ [prepared.received service.pipeline.userAgent] := by
  rcases nameShare_apply service start session with ⟨date, name, named⟩ | ⟨failure, stopped⟩
  · rcases required : requireCreated "share" name ((service.share name).create none 0)
      { session with sequence := session.sequence + 1 } with ⟨failure | _, after⟩
    · have whole : provideShare service start session = (.error failure, after) := by
        rw [provideShare, Run.bind_apply, named]
        simp only [Run.bind_apply, required]
      obtain ⟨sent, further, wire, -, own, others, -⟩ :=
        (Operation.createShare (service.share name) none 0).run_wire
        { session with sequence := session.sequence + 1 }
      rw [← Share.create_wire, ← requireCreated_wire "share" name, required] at wire
      exact Or.inl ⟨failure, after, whole, sent, further, wire,
        List.forall_mem_append.mpr ⟨fun received member => Or.inl (own received member), others⟩⟩
    · have whole : provideShare service start session =
          (.ok ⟨service.share name, name⟩, after) := by
        rw [provideShare, Run.bind_apply, named]
        simp only [Run.bind_apply, required]
        rfl
      obtain ⟨created, made⟩ := created_of_requireCreated (congrArg Prod.fst required)
      obtain ⟨response, ran⟩ := Share.run_of_create made
      obtain ⟨prepared, prepares, arrives⟩ := Operation.arrives_of_run rfl ran
      have wire := Share.create_wire (service.share name) none 0
        { session with sequence := session.sequence + 1 }
      rw [← requireCreated_wire "share" name, required] at wire
      have received := (congrArg Prod.fst wire).trans
        (Operation.run_arriving prepares rfl arrives).1
      exact Or.inr ⟨name, after, prepared, whole, ⟨date, prepares, arrives⟩, received⟩
  · refine Or.inl ⟨failure, session, ?_, .of_same rfl⟩
    rw [provideShare, Run.bind_apply, stopped]

end Scratch

namespace ScopedShare

theorem prepareLogging_apply (session : Session) : (prepareLogging session).2 = session := by
  cases chosen : Environment.ofSettings session.settings with
  | error error => simp [prepareLogging, chosen]
  | ok environment => simp [prepareLogging, chosen]

/-- Entering a scope fails with nothing sent but a request to create a share, or has sent one
that arrived. -/
theorem enter_cases (before : Session) :
    (∃ failure after, enter before = (.error failure, after) ∧
      before.ReceivedOnly "PUT" after) ∨
      ∃ service name after prepared, primaryServiceOf before.settings = .ok service ∧
        enter before = (.ok ⟨service, service.share name, name, false⟩, after) ∧
        Scratch.Provides service name before prepared ∧
        after.received = before.received ++ [prepared.received service.pipeline.userAgent] := by
  have unlogged := prepareLogging_apply before
  rcases logging : prepareLogging before with ⟨failure | level, mid⟩
  · rw [logging] at unlogged
    refine Or.inl ⟨failure, mid, ?_, .of_same (congrArg Session.wire unlogged)⟩
    rw [enter, Run.bind_apply, logging]
  · rw [logging] at unlogged
    obtain rfl : mid = before := unlogged
    obtain ⟨log, serviced⟩ := primaryService_apply mid
    cases given : primaryServiceOf mid.settings with
    | error failure =>
        rw [given] at serviced
        refine Or.inl ⟨failure, { mid with log }, ?_, .of_same rfl⟩
        rw [enter, Run.bind_apply, logging]
        simp only [Run.bind_apply, serviced]
    | ok service =>
        rw [given] at serviced
        rcases Scratch.provideShare_cases service Naming.sharePrefix { mid with log } with
          ⟨failure, after, failed, put⟩ | ⟨name, after, prepared, made, provides, received⟩
        · refine Or.inl ⟨failure, after, ?_, put⟩
          rw [enter, Run.bind_apply, logging]
          simp only [Run.bind_apply, serviced, failed]
        · refine Or.inr ⟨service, name,
            { after with log := after.log ++ [⟨.info, "Created test share " ++ name⟩] },
            prepared, rfl, ?_, ⟨provides.date, provides.prepares, provides.arrives⟩, received⟩
          rw [enter, Run.bind_apply, logging]
          simp only [Run.bind_apply, serviced, made, logEntry_apply]
          rfl

end ScopedShare

/-! ## Leaving -/

namespace ScopedShare

variable (ε : Type)

/-- An abandoned scope deletes the share of its name in the service that the variables then
give. -/
theorem abandon_found (scope : ScopedShare) {session : Session} {service : Service}
    (found : primaryServiceOf session.settings = .ok service) :
    ∃ log, ((scope.abandon : Run ε Unit) session).1 = .ok () ∧
      ((scope.abandon : Run ε Unit) session).2.wire =
        ((Operation.deleteShare (service.share scope.name)).run { session with log }).2.wire := by
  obtain ⟨account, named, given⟩ := account_of_primaryServiceOf found
  obtain ⟨log, serviced⟩ := account.service_apply session
  rw [given] at serviced
  refine ⟨log, ?_⟩
  have wire := Scratch.discardShare_wire (service.share scope.name) { session with log }
  rcases discarded : Scratch.discardShare (service.share scope.name) { session with log } with
    ⟨failure | _, after⟩
  · rw [discarded] at wire
    simp only [abandon, Run.bind_apply, Run.get_apply, named, Run.attempt_apply, serviced,
      discarded]
    exact ⟨rfl, wire⟩
  · rw [discarded] at wire
    simp only [abandon, Run.bind_apply, Run.get_apply, named, Run.attempt_apply, serviced,
      discarded]
    exact ⟨rfl, wire⟩

theorem abandon_received (scope : ScopedShare) {session : Session} {service : Service}
    (found : primaryServiceOf session.settings = .ok service) :
    ∃ log, ((scope.abandon : Run ε Unit) session).2.received =
      ((Operation.deleteShare (service.share scope.name)).run
        { session with log }).2.received := by
  obtain ⟨log, -, wire⟩ := scope.abandon_found ε found
  exact ⟨log, congrArg Prod.fst wire⟩

theorem abandon_lost (scope : ScopedShare) {session : Session} {failure : Failure}
    (lost : primaryServiceOf session.settings = .error failure) :
    ((scope.abandon : Run ε Unit) session).1 = .ok () ∧
      ((scope.abandon : Run ε Unit) session).2.wire = session.wire := by
  cases named : Account.primary session.settings with
  | error failure =>
      simp only [abandon, Run.bind_apply, Run.get_apply, named]
      exact ⟨rfl, rfl⟩
  | ok account =>
      obtain ⟨log, serviced⟩ := account.service_apply session
      cases given : account.serviceOf session.settings with
      | error error =>
          rw [given] at serviced
          simp only [abandon, Run.bind_apply, Run.get_apply, named, Run.attempt_apply, serviced]
          exact ⟨rfl, rfl⟩
      | ok service =>
          simp only [primaryServiceOf, named, given] at lost
          cases lost

theorem abandon_lost_received (scope : ScopedShare) {session : Session} {failure : Failure}
    (lost : primaryServiceOf session.settings = .error failure) :
    ((scope.abandon : Run ε Unit) session).2.received = session.received :=
  congrArg Prod.fst (scope.abandon_lost ε lost).2

theorem abandon_ends (scope : ScopedShare) (session : Session) :
    ((scope.abandon : Run ε Unit) session).1 = .ok () ∧
      session.AddsOneAtMost ((scope.abandon : Run ε Unit) session).2 := by
  cases found : primaryServiceOf session.settings with
  | error failure =>
      obtain ⟨ended, nothing⟩ := scope.abandon_lost ε found
      exact ⟨ended, .of_same nothing⟩
  | ok service =>
      obtain ⟨log, ended, wire⟩ := scope.abandon_found ε found
      obtain ⟨sent, further, once, short, -, -, direct⟩ :=
        (Operation.deleteShare (service.share scope.name)).run_wire { session with log }
      exact ⟨ended, sent, further, wire.trans once, short, direct⟩

theorem drop_ends (scope : ScopedShare) (session : Session) :
    ((scope.drop : Run ε Unit) session).1 = .ok () ∧
      session.AddsOneAtMost ((scope.drop : Run ε Unit) session).2 := by
  rw [drop]
  split
  · exact ⟨rfl, .of_same rfl⟩
  · exact scope.abandon_ends ε session

/-- Behind the regular end there is nothing left to do. -/
theorem close_of_discard (scope : ScopedShare) {session : Session}
    (discarded : (Scratch.discardShare scope.share session).1 = .ok ()) :
    scope.close session = (.ok (), (Scratch.discardShare scope.share session).2) := by
  rcases run : Scratch.discardShare scope.share session with ⟨failure | _, after⟩
  · rw [run] at discarded
    cases discarded
  · simp only [close, Run.bind_apply, Run.attempt_apply, run]
    rfl

theorem received_of_close {scope : ScopedShare} {later after : Session} {sent : List Received}
    (closed : scope.close later = (.ok (), after)) (received : after.received = sent) :
    (scope.close later).2.received = sent := by
  rw [closed]
  exact received

/-- A scope whose end stops half-way is dropped as it is. -/
theorem close_of_stop (scope : ScopedShare) {session : Session} {failure : Failure}
    (stopped : (Scratch.discardShare scope.share session).1 = .error failure) :
    scope.close session = (.error failure,
      ((scope.drop : Run Failure Unit) (Scratch.discardShare scope.share session).2).2) := by
  rcases run : Scratch.discardShare scope.share session with ⟨other | _, after⟩
  · rw [run] at stopped
    cases stopped
    have ended := (scope.drop_ends Failure after).1
    rcases left : (scope.drop : Run Failure Unit) after with ⟨result, final⟩
    rw [left] at ended
    obtain rfl : result = .ok () := ended
    simp only [close, Run.bind_apply, Run.attempt_apply, run, left]
    rfl
  · rw [run] at stopped
    cases stopped

section Arriving

variable {service : Service} {later : Session} {signed : Request}

theorem close_arriving (scope : ScopedShare)
    (prepares : (Operation.deleteShare scope.share).Prepares later.now signed)
    (arrives : signed.Arrives later.peer) :
    scope.close later = (.ok (), (Scratch.discardShare scope.share later).2) ∧
      (Scratch.discardShare scope.share later).2.received =
        later.received ++ [signed.received scope.share.pipeline.userAgent] := by
  have sent := Operation.run_arriving prepares rfl arrives
  have discarded : (Scratch.discardShare scope.share later).1 = .ok () := by
    rcases Scratch.discardShare_cases scope.share later with ended | ⟨message, stopped, -⟩
    · exact ended
    · exact absurd stopped (sent.2 message)
  have received := congrArg Prod.fst (Scratch.discardShare_wire scope.share later)
  exact ⟨scope.close_of_discard discarded, received.trans sent.1⟩

theorem abandon_arriving (scope : ScopedShare)
    (found : primaryServiceOf later.settings = .ok service)
    (prepares : (Operation.deleteShare (service.share scope.name)).Prepares later.now signed)
    (arrives : signed.Arrives later.peer) :
    ((scope.abandon : Run ε Unit) later).2.received =
      later.received ++ [signed.received service.pipeline.userAgent] := by
  obtain ⟨log, received⟩ := scope.abandon_received ε found
  have again : (Operation.deleteShare (service.share scope.name)).Prepares
      ({ later with log } : Session).now signed := prepares
  exact received.trans (Operation.run_arriving again rfl arrives).1

end Arriving

theorem abandon_undated (scope : ScopedShare) {session : Session}
    (noDate : ¬ session.now.IsDate) :
    ((scope.abandon : Run ε Unit) session).2.wire = session.wire := by
  cases found : primaryServiceOf session.settings with
  | error failure => exact (scope.abandon_lost ε found).2
  | ok service =>
      obtain ⟨account, -, given⟩ := account_of_primaryServiceOf found
      obtain ⟨credential, signs⟩ := Account.serviceOf_signs given
      obtain ⟨log, -, wire⟩ := scope.abandon_found ε found
      have undated : ¬ ({ session with log } : Session).now.IsDate := noDate
      have signing : (Operation.deleteShare (service.share scope.name)).pipeline.credential =
          some credential := signs
      exact wire.trans (Operation.run_undated signing undated)

end ScopedShare

/-! ## One deletion -/

theorem Operation.deleteShare_request (share : Share) (host : share.url.hasHost = true) :
    ∃ request, (Operation.deleteShare share).request = .ok request := by
  have host : (Operation.deleteShare share).url.hasHost = true := host
  exact ⟨_, (request_of_fields rfl host).trans (if_pos (by decide))⟩

theorem Operation.hasHost_of_request {operation : Operation} {request : Request}
    (built : operation.request = .ok request) : operation.url.hasHost = true := by
  rw [request_eq] at built
  split at built
  · cases built
  · split at built
    · rename_i host
      exact host
    · cases built

theorem Operation.asked_url_share (share : Share) (metadata : Option Metadata)
    (quotaGib : UInt32) :
    (Operation.deleteShare share).asked.url =
      (Operation.createShare share metadata quotaGib).asked.url := by
  have bare (method other : Text) :
      (Request.bare method share.url).url = (Request.bare other share.url).url := by
    rw [Request.bare, Request.bare]
    split <;> rfl
  exact congrArg (fun url : Url => url.withPair "restype" "share") (bare _ _)

namespace Scratch

variable {service : Service} {name : Text} {before later : Session} {prepared : Request}
variable {credential : Credential}

/-- The request that deletes a share can be sent at every date once the one that creates it
has arrived. -/
theorem Provides.deletes (provides : Provides service name before prepared)
    (signs : service.pipeline.credential = some credential) (date : later.now.IsDate)
    (there : later.peer ≠ .unreachable) :
    ∃ signed, (Operation.deleteShare (service.share name)).Prepares later.now signed ∧
      signed.Arrives later.peer ∧ signed.url = prepared.url ∧ signed.method = "DELETE" := by
  obtain ⟨request, built, success⟩ := provides.prepares
  obtain ⟨asked, deletes⟩ :=
    Operation.deleteShare_request (service.share name) (Operation.hasHost_of_request built)
  obtain ⟨signed, prepares⟩ := Operation.prepares_of_signed provides.prepares signs deletes
    rfl date
  have url : signed.url = prepared.url := by
    rw [prepares.target.1, provides.prepares.target.1,
      Operation.asked_url_share (service.share name) none 0]
  exact ⟨signed, prepares, provides.arrives.of_url url there, url, prepares.target.2⟩

theorem Provides.stops (provides : Provides service name before prepared)
    (signs : service.pipeline.credential = some credential) (noDate : ¬ later.now.IsDate) :
    ∃ message, discardShare (service.share name) later = (.error (.stopped message), later) := by
  obtain ⟨request, built, -⟩ := provides.prepares
  obtain ⟨asked, deletes⟩ :=
    Operation.deleteShare_request (service.share name) (Operation.hasHost_of_request built)
  have signing : (Operation.deleteShare (service.share name)).pipeline.credential =
      some credential := signs
  obtain ⟨message, stopped⟩ := Operation.run_undated_stops signing deletes rfl noDate
  refine ⟨message, ?_⟩
  have deleted : (service.share name).delete later = (.error (.stopped message), later) := by
    simp only [Share.delete, Operation.runDeleted, Run.bind_apply, stopped]
  simp only [discardShare, Run.bind_apply, Run.attempt_apply, deleted]
  rfl

end Scratch

/-- Where no scope is entered, no request to delete was sent.  A scope that was entered has sent the
request that creates its share; at any date its regular end sends one request to delete, for the
same URL, and the drop behind it does nothing.  In unchanged variables a scope that is dropped
without its end sends the same request.  No drop fails or sends more than one request.  The client
may send others besides, where a reply sends it elsewhere, and only there.  Without a date nothing
is sent at all. -/
theorem scope_discards_once (before : Session) :
    (∀ failure after, ScopedShare.enter before = (.error failure, after) →
      ∃ sent further, after.wire = (before.received ++ sent, before.followed ++ further) ∧
        ∀ received ∈ sent ++ further, received.method ≠ "DELETE".toList) ∧
    (∀ scope after, ScopedShare.enter before = (.ok scope, after) →
      before.now.IsDate ∧ ∃ created : Received, created.method = "PUT".toList ∧
        after.received = before.received ++ [created] ∧
        ∀ later : Session, later.peer ≠ .unreachable →
          (later.now.IsDate →
            ∃ deletion, (Operation.deleteShare scope.share).arrival later.now = .ok deletion ∧
              deletion.method = "DELETE".toList ∧ deletion.url = created.url ∧
              (Scratch.discardShare scope.share later).2.received =
                later.received ++ [deletion] ∧
              later.AddsOneAtMost (Scratch.discardShare scope.share later).2 ∧
              scope.close later = (.ok (), (Scratch.discardShare scope.share later).2) ∧
              (later.settings = before.settings →
                ((scope.drop : Run Failure Unit) later).2.received =
                  later.received ++ [deletion])) ∧
          (¬ later.now.IsDate →
            (∃ message, (scope.close later).1 = .error (.stopped message)) ∧
              (scope.close later).2.wire = later.wire)) ∧
    ∀ (scope : ScopedShare) (later : Session),
      ((scope.drop : Run Failure Unit) later).1 = .ok () ∧
        later.AddsOneAtMost ((scope.drop : Run Failure Unit) later).2 := by
  refine ⟨?_, ?_, fun scope later => scope.drop_ends Failure later⟩
  · intro failure after failed
    rcases ScopedShare.enter_cases before with
      ⟨other, final, stopped, sent, further, wire, put⟩ | ⟨_, _, _, _, _, entered, _⟩
    · rw [stopped] at failed
      cases failed
      refine ⟨sent, further, wire, fun request member => ?_⟩
      rcases put request member with own | anew
      · rw [own]
        decide
      · rw [anew]
        decide
    · rw [entered] at failed
      cases failed
  · intro scope after entered
    rcases ScopedShare.enter_cases before with
      ⟨other, final, stopped, _⟩ | ⟨service, name, final, prepared, given, made, provides, received⟩
    · rw [stopped] at entered
      cases entered
    · rw [made] at entered
      cases entered
      obtain ⟨account, -, serviced⟩ := account_of_primaryServiceOf given
      obtain ⟨credential, signs⟩ := Account.serviceOf_signs serviced
      refine ⟨provides.date, _, provides.prepares.target.2, received, fun later there => ⟨?_, ?_⟩⟩
      · intro date
        obtain ⟨signed, prepares, arrives, url, method⟩ := provides.deletes signs date there
        obtain ⟨closed, sent⟩ :=
          (⟨service, service.share name, name, false⟩ : ScopedShare).close_arriving prepares arrives
        refine ⟨_, prepares.arrival, method, ?_, sent, Scratch.discardShare_adds _ later, closed,
          fun same => ?_⟩
        · exact congrArg (fun url : Url => url.withoutUserInfo.withoutFragment.toText) url
        · rw [← same] at given
          exact ScopedShare.abandon_arriving Failure _ given prepares arrives
      · intro noDate
        obtain ⟨message, stopped⟩ := provides.stops signs noDate
        have closed := ScopedShare.close_of_stop
          ⟨service, service.share name, name, false⟩ (congrArg Prod.fst stopped)
        rw [closed, stopped]
        exact ⟨⟨message, rfl⟩, ScopedShare.abandon_undated Failure _ noDate⟩

/-- Variables for an account at a plain endpoint, and a service that creates a share and then
answers nothing. -/
def Session.scopeSample : Session :=
  { silentSample with
    settings :=
      [("ACCOUNT_NAME", Text.asciiBytes "account"), ("ACCOUNT_KEY", Text.asciiBytes "AQID"),
        ("AZFILE_ENDPOINT", Text.asciiBytes "http://host/base")]
    peer := .scripted [.reply ⟨201, [], []⟩] .hangUp }

/-- A primary account with a service at the path `/base` of a host. -/
def Service.primarySample (account host : Text) : Service :=
  { url :=
      { scheme := "http"
        username := []
        password := []
        host := some (.domain host)
        port := none
        path := .segments ["base"]
        isSetApart := false
        query := none
        fragment := none }
    pipeline := { credential := some ⟨account, [1, 2, 3]⟩, userAgent := none } }

def ScopedShare.primarySample : ScopedShare where
  service := .primarySample "account" "host"
  share := (Service.primarySample "account" "host").share "rsfoo11111111111110"
  name := "rsfoo11111111111110"
  cleanedUp := false

theorem ScopedShare.enter_scopeSample :
    ∃ after prepared, enter Session.scopeSample = (.ok primarySample, after) ∧
      Scratch.Provides (.primarySample "account" "host") "rsfoo11111111111110"
        Session.scopeSample prepared ∧
      after.received = [prepared.received none] := by
  have named : (enter Session.scopeSample).1.toOption.map (·.name) =
      some "rsfoo11111111111110".toList := by decide +kernel
  rcases enter_cases Session.scopeSample with
    ⟨failure, after, stopped, _⟩ | ⟨service, name, after, prepared, given, made, provides, received⟩
  · rw [stopped] at named
    cases named
  rw [made] at named
  obtain rfl : name = "rsfoo11111111111110".toList := Option.some.inj named
  have known : primaryServiceOf Session.scopeSample.settings =
      .ok (.primarySample "account" "host") := ok_of_toOption (by decide +kernel)
  obtain rfl := Except.ok.inj (given.symm.trans known)
  exact ⟨after, prepared, made, provides, received⟩

theorem scope_discards_once_sample :
    ∃ scope after, ScopedShare.enter Session.scopeSample = (.ok scope, after) ∧
      ∃ deletion : Received, deletion.method = "DELETE".toList ∧
        (scope.close Session.scopeSample).2.received = [deletion] ∧
        ((scope.drop : Run Failure Unit) Session.scopeSample).2.received = [deletion] := by
  obtain ⟨after, prepared, entered, -⟩ := ScopedShare.enter_scopeSample
  generalize ScopedShare.primarySample = scope at entered
  obtain ⟨date, _, -, -, discards⟩ :=
    (scope_discards_once Session.scopeSample).2.1 scope after entered
  obtain ⟨deletion, -, method, -, sent, -, closed, dropped⟩ :=
    (discards Session.scopeSample (by decide)).1 date
  exact ⟨scope, after, entered, deletion, method, ScopedShare.received_of_close closed sent,
    dropped rfl⟩

/-- A scope whose end comes without a date sends no request to delete, and one whose request is
answered by sending the client elsewhere makes it send two. -/
theorem scope_may_discard_otherwise :
    ∃ scope after, ScopedShare.enter Session.scopeSample = (.ok scope, after) ∧
      (scope.close { Session.scopeSample with now := ⟨-1, 0⟩ }).2.wire = ([], []) ∧
      ∃ first second, (scope.close (.elsewhereSample 202)).2.wire = ([first], [second]) ∧
        first.method = "DELETE".toList ∧ second.method = "DELETE".toList := by
  obtain ⟨after, prepared, entered, -⟩ := ScopedShare.enter_scopeSample
  have undated : (ScopedShare.primarySample.close
      { Session.scopeSample with now := ⟨-1, 0⟩ }).2.wire = ([], []) := by decide +kernel
  have methods :
      (ScopedShare.primarySample.close (.elsewhereSample 202)).2.received.map (·.method) =
          ["DELETE".toList] ∧
        (ScopedShare.primarySample.close (.elsewhereSample 202)).2.followed.map (·.method) =
          ["DELETE".toList] := by decide +kernel
  obtain ⟨first, received, asked⟩ := List.map_eq_singleton_iff.mp methods.1
  obtain ⟨second, further, again⟩ := List.map_eq_singleton_iff.mp methods.2
  exact ⟨.primarySample, after, entered, undated, first, second,
    Session.wire_eq received further, asked, again⟩

end FileShare
