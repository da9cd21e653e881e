import FileShare.Proofs.Config.Settings
import FileShare.Proofs.Scratch.Scope

/-!
# Abandoned scopes follow the variables

A scope that is closed deletes the share through the handle that it holds.  One that is abandoned
looks the service up anew, so the variables of that moment decide: whether there is a request
at all, where it goes, and which account it is signed for.  As long as the variables give the
same service, nothing else in them matters.
-/

set_option autoImplicit false

namespace FileShare

/-! ## The account of a request -/

/-- The request bears a signature for the account, whatever the signature is. -/
def Received.SignedFor (received : Received) (account : Text) : Prop :=
  ∃ signature : Text, ':' ∉ signature ∧
    received.fields.values authorizationField =
      [Text.Utf8.encode ("SharedKey " ++ account ++ ':' :: signature)]

theorem Received.IsSigned.signedFor {received : Received} {url : Url} {credential : Credential}
    (signed : received.IsSigned url credential) : received.SignedFor credential.accountName :=
  ⟨_, Base64.colon_not_mem_encodeText _, signed.authorization⟩

theorem Received.SignedFor.unique {received : Received} {first second : Text}
    (one : received.SignedFor first) (other : received.SignedFor second) : first = second := by
  obtain ⟨signature₁, free₁, given₁⟩ := one
  obtain ⟨signature₂, free₂, given₂⟩ := other
  have same := Text.Utf8.encode_injective (List.cons.inj (given₁.symm.trans given₂)).1
  -- A signature holds no colon, so both accounts end at the last colon of the one text.
  have backwards := congrArg List.reverse same
  simp only [List.reverse_append, List.reverse_cons, List.append_assoc, List.singleton_append]
    at backwards
  have fronts := (Text.append_sep_inj (mt List.mem_reverse.mp free₁) (mt List.mem_reverse.mp free₂)
    backwards).2
  exact List.reverse_inj.mp (List.append_cancel_right fronts)

/-! ## The variables of the primary account -/

def primaryVariables : List Text := ["ACCOUNT_NAME", "ACCOUNT_KEY", endpointVariable]

theorem primaryServiceOf_congr {first second : Settings}
    (same : ∀ name ∈ primaryVariables, first.lookup name = second.lookup name) :
    primaryServiceOf first = primaryServiceOf second := by
  simp only [primaryVariables, List.forall_mem_cons] at same
  obtain ⟨name, key, endpoint, -⟩ := same
  have account : Account.primary first = Account.primary second := by
    rw [Account.primary, Account.primary, Account.ofSettings?_congr name key]
  simp only [primaryServiceOf, Account.serviceOf, account, Environment.ofSettings_congr endpoint]

/-! ## What an abandoned scope sends -/

namespace ScopedShare

variable {scope : ScopedShare} {service : Service} {later : Session}

/-- The one request, if any, is the one that deletes the share in the service that the
variables give. -/
theorem abandon_sends_iff (scope : ScopedShare)
    (found : primaryServiceOf later.settings = .ok service) {deletion : Received} :
    ((scope.abandon : Run Failure Unit) later).2.received = later.received ++ [deletion] ↔
      ∃ signed, (Operation.deleteShare (service.share scope.name)).Prepares later.now signed ∧
        signed.Arrives later.peer ∧ deletion = signed.received service.pipeline.userAgent := by
  obtain ⟨log, received⟩ := scope.abandon_received Failure found
  rw [received]
  exact Operation.run_sends_iff rfl

theorem abandon_missing (scope : ScopedShare)
    (found : primaryServiceOf later.settings = .ok service)
    (missing : ∀ signed,
      (Operation.deleteShare (service.share scope.name)).Prepares later.now signed →
        ¬ signed.Arrives later.peer) :
    ((scope.abandon : Run Failure Unit) later).2.received = later.received := by
  obtain ⟨log, received⟩ := scope.abandon_received Failure found
  exact received.trans (Operation.run_missing missing)

theorem abandon_congr (scope : ScopedShare) {first second : Session}
    (now : first.now = second.now) (peer : first.peer = second.peer)
    (received : first.received = second.received)
    (same : primaryServiceOf first.settings = primaryServiceOf second.settings) :
    ((scope.abandon : Run Failure Unit) first).2.received =
      ((scope.abandon : Run Failure Unit) second).2.received := by
  cases found : primaryServiceOf first.settings with
  | error failure =>
      have foundToo := same.symm.trans found
      rw [scope.abandon_lost_received Failure found, scope.abandon_lost_received Failure foundToo,
        received]
  | ok service =>
      have foundToo := same.symm.trans found
      -- What is prepared for this service depends on the clock alone, and whether it arrives on
      -- the peer; so it is sent in both sessions or in neither.
      by_cases missing : ∀ signed,
          (Operation.deleteShare (service.share scope.name)).Prepares first.now signed →
            ¬ signed.Arrives first.peer
      · have missingToo := missing
        rw [now, peer] at missingToo
        rw [scope.abandon_missing found missing, scope.abandon_missing foundToo missingToo,
          received]
      · simp only [Classical.not_forall, Classical.not_not] at missing
        obtain ⟨signed, prepares, arrives⟩ := missing
        have preparesToo := prepares
        rw [now] at preparesToo
        have arrivesToo := arrives
        rw [peer] at arrivesToo
        rw [scope.abandon_arriving Failure found prepares arrives,
          scope.abandon_arriving Failure foundToo preparesToo arrivesToo, received]

/-- Abandoned in this session, the scope sends one request: it deletes what the given one
created, for the given account.  Where a reply sends the client on from there is left open. -/
def DeletesCreated (scope : ScopedShare) (created : Received) (account : Text)
    (later : Session) : Prop :=
  ∃ deletion : Received,
    ((scope.abandon : Run Failure Unit) later).2.received = later.received ++ [deletion] ∧
      deletion.method = "DELETE".toList ∧ deletion.url = created.url ∧ deletion.SignedFor account

/-- The variables lead to a service of the account in which the share has the URL that was
created, and a request to it arrives. -/
structure LeadsBack (scope : ScopedShare) (created : Received) (account : Text)
    (later : Session) (service : Service) (signed : Request) : Prop where
  found : primaryServiceOf later.settings = .ok service
  account : ∃ key, service.pipeline.credential = some ⟨account, key⟩
  url : (Operation.deleteShare (service.share scope.name)).arrivalUrl.toText = created.url
  prepares : (Operation.deleteShare (service.share scope.name)).Prepares later.now signed
  arrives : signed.Arrives later.peer

theorem deletesCreated_iff (scope : ScopedShare) (created : Received) (account : Text)
    (later : Session) :
    scope.DeletesCreated created account later ↔
      ∃ service signed, scope.LeadsBack created account later service signed := by
  constructor
  · rintro ⟨deletion, sent, -, url, signedFor⟩
    cases found : primaryServiceOf later.settings with
    | error failure =>
        rw [scope.abandon_lost_received Failure found] at sent
        exact absurd sent (by simp)
    | ok service =>
        obtain ⟨signed, prepares, arrives, rfl⟩ := (scope.abandon_sends_iff found).mp sent
        obtain ⟨primary, -, given⟩ := account_of_primaryServiceOf found
        obtain ⟨credential, signs⟩ := Account.serviceOf_signs given
        have isSigned := prepares.isSigned signs
        refine ⟨service, signed, found, ⟨credential.key, ?_⟩, ?_, prepares, arrives⟩
        · rw [← isSigned.signedFor.unique signedFor]
          exact signs
        · rw [← isSigned.target]
          exact url
  · rintro ⟨service, signed, found, ⟨key, signs⟩, url, prepares, arrives⟩
    have isSigned := prepares.isSigned signs
    exact ⟨_, scope.abandon_arriving Failure found prepares arrives, prepares.target.2,
      isSigned.target.trans url, isSigned.signedFor⟩

/-- What it takes for a request: a service of an account that can be named in a field, at an
address that a client can use, a dated clock, and a peer. -/
theorem abandon_sends (scope : ScopedShare)
    (found : primaryServiceOf later.settings = .ok service) {credential : Credential}
    (signs : service.pipeline.credential = some credential)
    (named : Field.isValue (Text.Utf8.encode credential.accountName) = true)
    (date : later.now.IsDate) (host : (service.share scope.name).url.hasHost = true)
    (usable : Request.isUsableUrl (Operation.deleteShare (service.share scope.name)).asked.url)
    (there : later.peer ≠ .unreachable) :
    ∃ deletion,
      ((scope.abandon : Run Failure Unit) later).2.received = later.received ++ [deletion] ∧
        deletion.url = (Operation.deleteShare (service.share scope.name)).arrivalUrl.toText ∧
        deletion.SignedFor credential.accountName := by
  obtain ⟨request, built⟩ := Operation.deleteShare_request _ host
  have signing : (Operation.deleteShare (service.share scope.name)).pipeline.credential =
      some credential := signs
  obtain ⟨signed, prepares⟩ := Operation.prepares_of_named signing named built date
  have isSigned := prepares.isSigned signs
  have arrives : signed.Arrives later.peer :=
    ⟨(congrArg Request.isUsableUrl prepares.target.1).trans usable, there⟩
  exact ⟨_, scope.abandon_arriving Failure found prepares arrives, isSigned.target,
    isSigned.signedFor⟩

end ScopedShare

/-- A scope that was entered has created its share for one account.  Abandoned while the three
variables of the primary account are as they were, it sends what its regular end would send:
one request that deletes this share for this account.  It does so exactly if the variables of
that moment lead back to the share and the account; without a primary service it sends nothing,
and variables that give the same service make no difference. -/
theorem abandoned_scope_follows_variables (before : Session) :
    ∀ scope after, ScopedShare.enter before = (.ok scope, after) →
      ∃ (created : Received) (account : Text), created.method = "PUT".toList ∧
        after.received = before.received ++ [created] ∧ created.SignedFor account ∧
        ∀ later : Session,
          (later.peer ≠ .unreachable → later.now.IsDate →
            (∀ name ∈ primaryVariables,
              later.settings.lookup name = before.settings.lookup name) →
            scope.DeletesCreated created account later ∧
              ((scope.abandon : Run Failure Unit) later).2.received =
                (scope.close later).2.received) ∧
          (scope.DeletesCreated created account later ↔
            ∃ service signed, scope.LeadsBack created account later service signed) ∧
          (∀ failure, primaryServiceOf later.settings = .error failure →
            ((scope.abandon : Run Failure Unit) later).2.received = later.received) ∧
          ∀ other : Session, other.now = later.now → other.peer = later.peer →
            other.received = later.received →
            primaryServiceOf other.settings = primaryServiceOf later.settings →
            ((scope.abandon : Run Failure Unit) other).2.received =
              ((scope.abandon : Run Failure Unit) later).2.received := by
  intro scope after entered
  rcases ScopedShare.enter_cases before with
    ⟨other, final, stopped, _⟩ | ⟨service, name, final, prepared, given, made, provides, received⟩
  · rw [stopped] at entered
    cases entered
  · rw [made] at entered
    cases entered
    obtain ⟨account, -, serviced⟩ := account_of_primaryServiceOf given
    obtain ⟨credential, signs⟩ := Account.serviceOf_signs serviced
    have creates := provides.prepares.isSigned signs
    refine ⟨_, credential.accountName, provides.prepares.target.2, received, creates.signedFor,
      fun later => ⟨fun there date same => ?_, ScopedShare.deletesCreated_iff _ _ _ later,
        fun failure lost => ScopedShare.abandon_lost_received Failure _ lost,
        fun other now peer same alike => ScopedShare.abandon_congr _ now peer same alike⟩⟩
    -- Looking the service up again gives the one that the scope holds.
    have found := (primaryServiceOf_congr same).trans given
    obtain ⟨signed, prepares, arrives, -, -⟩ := provides.deletes signs date there
    obtain ⟨closed, sent⟩ :=
      (⟨service, service.share name, name, false⟩ : ScopedShare).close_arriving prepares arrives
    refine ⟨(ScopedShare.deletesCreated_iff _ _ _ later).mpr
      ⟨service, signed, found, ⟨credential.key, signs⟩, creates.target.symm, prepares, arrives⟩, ?_⟩
    rw [ScopedShare.received_of_close closed sent]
    exact ScopedShare.abandon_arriving Failure _ found prepares arrives

theorem abandoned_scope_follows_variables_sample :
    ∃ scope after created account,
      ScopedShare.enter Session.scopeSample = (.ok scope, after) ∧
      scope.DeletesCreated created account
        { Session.scopeSample with
          settings := ("SECONDARY_ACCOUNT_NAME", Text.asciiBytes "other") ::
            Session.scopeSample.settings } ∧
      ((scope.abandon : Run Failure Unit)
        { Session.scopeSample with settings := [] }).2.received = [] := by
  obtain ⟨after, prepared, entered, -⟩ := ScopedShare.enter_scopeSample
  obtain ⟨created, account, -, -, -, lost⟩ :=
    abandoned_scope_follows_variables Session.scopeSample _ after entered
  obtain ⟨failure, none⟩ := error_of_isOk (show (primaryServiceOf []).isOk = false by decide +kernel)
  refine ⟨_, after, created, account, entered, ?_, ?_⟩
  · refine ((lost _).1 (by decide) (show Instant.IsDate ⟨671, 111111111⟩ by decide) ?_).1
    decide +kernel
  · exact (lost { Session.scopeSample with settings := [] }).2.2.1 failure none

/-! ## Other variables -/

/-- Variables for a primary account with a service at the path `/base` of a host. -/
def Settings.primarySample (account host : Text) : Settings :=
  [("ACCOUNT_NAME", Text.asciiBytes account), ("ACCOUNT_KEY", Text.asciiBytes "AQID"),
    (endpointVariable, Text.asciiBytes ("http://" ++ host ++ "/base"))]

/-- The sample session with the variables of that service. -/
def Session.withPrimary (account host : Text) : Session :=
  { scopeSample with settings := .primarySample account host }

/-- Without the variables nothing is sent, with another endpoint the request goes elsewhere,
and with another account it is signed for that one. -/
theorem abandoned_scope_leaves_share :
    ∃ scope after created, ScopedShare.enter Session.scopeSample = (.ok scope, after) ∧
      after.received = [created] ∧ created.method = "PUT".toList ∧
      created.SignedFor "account" ∧
      ((scope.abandon : Run Failure Unit)
        { Session.scopeSample with settings := [] }).2.received = [] ∧
      (∃ deletion,
        ((scope.abandon : Run Failure Unit) (.withPrimary "account" "elsewhere")).2.received =
            [deletion] ∧
          deletion.url ≠ created.url) ∧
      ∃ deletion,
        ((scope.abandon : Run Failure Unit) (.withPrimary "other" "host")).2.received =
            [deletion] ∧
          deletion.url = created.url ∧ ¬ deletion.SignedFor "account" := by
  obtain ⟨after, prepared, entered, provides, received⟩ := ScopedShare.enter_scopeSample
  have creates := provides.prepares.isSigned rfl
  obtain ⟨failure, none⟩ := error_of_isOk (show (primaryServiceOf []).isOk = false by decide +kernel)
  have moved : primaryServiceOf (Session.withPrimary "account" "elsewhere").settings =
      .ok (.primarySample "account" "elsewhere") := ok_of_toOption (by decide +kernel)
  have renamed : primaryServiceOf (Session.withPrimary "other" "host").settings =
      .ok (.primarySample "other" "host") := ok_of_toOption (by decide +kernel)
  have date : Instant.IsDate ⟨671, 111111111⟩ := by decide
  have there : Session.scopeSample.peer ≠ .unreachable := fun gone => by cases gone
  obtain ⟨elsewhere, sentElsewhere, otherUrl, -⟩ := ScopedShare.primarySample.abandon_sends
    moved rfl (by decide) date (by decide) (by decide +kernel) there
  obtain ⟨foreign, sentForeign, sameUrl, signedForeign⟩ := ScopedShare.primarySample.abandon_sends
    renamed rfl (by decide) date (by decide) (by decide +kernel) there
  refine ⟨.primarySample, after, _, entered, received, provides.prepares.target.2,
    creates.signedFor, ScopedShare.abandon_lost_received Failure _ none,
    ⟨elsewhere, sentElsewhere, fun same => ?_⟩,
    foreign, sentForeign, sameUrl.trans (Eq.trans ?_ creates.target.symm), fun signedFor => ?_⟩
  · exact absurd (otherUrl.symm.trans (same.trans creates.target)) (by decide +kernel)
  · decide +kernel
  · exact absurd (signedForeign.unique signedFor) (by decide)

end FileShare
