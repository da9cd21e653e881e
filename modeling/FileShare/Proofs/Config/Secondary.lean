import FileShare.Proofs.Config.Account
import FileShare.Proofs.Config.Settings
import FileShare.Proofs.Storage.Delivery

/-!
# The secondary service

The secondary account has a name and a key of its own, and its service lives where the first of
three sources says: its own endpoint, the shared one, the host of the account in the cloud.  A
source counts if its variable holds a text, be this a URL or not, so that no later source stands
in for a malformed one.  The variables of the primary account do not matter.
-/

set_option autoImplicit false

namespace FileShare

/-- The text that is read as the root of the secondary service. -/
inductive Settings.SecondarySource (settings : Settings) (account : Text) : Text → Prop where
  | own {value : Text} (own : settings.Holds secondaryEndpointVariable value) :
      SecondarySource settings account (Text.trim value)
  | shared {value : Text} (noOwn : ∀ own, ¬ settings.Holds secondaryEndpointVariable own)
      (shared : settings.Holds endpointVariable value) :
      SecondarySource settings account (Text.trim value)
  | cloud (noOwn : ∀ own, ¬ settings.Holds secondaryEndpointVariable own)
      (noShared : ∀ shared, ¬ settings.Holds endpointVariable shared) :
      SecondarySource settings account (Environment.cloudUrlText account)

theorem Settings.exists_secondarySource (settings : Settings) (account : Text) :
    ∃ source, settings.SecondarySource account source := by
  rcases settings.holds_or_empty secondaryEndpointVariable with ⟨value, own⟩ | noOwn
  · exact ⟨_, .own own⟩
  · rcases settings.holds_or_empty endpointVariable with ⟨value, shared⟩ | noShared
    · exact ⟨_, .shared noOwn shared⟩
    · exact ⟨_, .cloud noOwn noShared⟩

/-- The root of the secondary service, for the name of the secondary account. -/
def secondaryRoot (settings : Settings) (account : Text) : Except StorageError Url := do
  let environment <- Environment.secondary settings
  environment.serviceRoot account

/-- The root is what the source says, and nothing else is tried. -/
theorem secondaryRoot_eq {settings : Settings} {account source : Text}
    (given : settings.SecondarySource account source) :
    ∃ describe : UrlFault → ConfigFault,
      secondaryRoot settings account =
        (Url.parse source).mapError fun fault => .config (describe fault) := by
  cases given with
  | @own value own =>
      -- Whether it is a URL or not, the result of reading it ends the search.
      refine ⟨.malformedEndpoint secondaryEndpointVariable (Text.trim value), ?_⟩
      have read := Settings.endpoint?_of_holds own
      rw [secondaryRoot, Environment.secondary, read]
      cases Url.parse (Text.trim value) with
      | error fault => rfl
      | ok url => rfl
  | @shared value noOwn shared =>
      refine ⟨.malformedEndpoint endpointVariable (Text.trim value), ?_⟩
      have skipped := Settings.endpoint?_of_empty noOwn
      have read := Settings.endpoint?_of_holds shared
      rw [secondaryRoot, Environment.secondary, skipped]
      dsimp only
      rw [Environment.ofSettings, read]
      cases Url.parse (Text.trim value) with
      | error fault => rfl
      | ok url => rfl
  | cloud noOwn noShared =>
      refine ⟨.malformedAccountName account, ?_⟩
      have skipped := Settings.endpoint?_of_empty noOwn
      have neither := Settings.endpoint?_of_empty noShared
      have chosen : Environment.secondary settings = .ok .cloud := by
        rw [Environment.secondary, skipped]
        dsimp only
        rw [Environment.ofSettings, neither]
        rfl
      rw [secondaryRoot, chosen, ok_bind, Environment.serviceRoot]
      cases Url.parse (Environment.cloudUrlText account) with
      | error fault => rfl
      | ok url => rfl

theorem secondaryRoot_eq_ok_iff {settings : Settings} {account : Text} {url : Url} :
    secondaryRoot settings account = .ok url ↔
      ∃ source, settings.SecondarySource account source ∧ Url.parse source = .ok url := by
  constructor
  · intro found
    obtain ⟨source, given⟩ := settings.exists_secondarySource account
    obtain ⟨describe, root⟩ := secondaryRoot_eq given
    rw [root, mapError_eq_ok_iff] at found
    exact ⟨source, given, found⟩
  · rintro ⟨source, given, read⟩
    obtain ⟨describe, root⟩ := secondaryRoot_eq given
    rw [root, mapError_eq_ok_iff]
    exact read

/-- A source that is no URL is not made up for by a later one. -/
theorem secondaryRoot_ne_ok {settings : Settings} {account source : Text} {fault : UrlFault}
    (given : settings.SecondarySource account source) (malformed : Url.parse source = .error fault)
    (url : Url) : secondaryRoot settings account ≠ .ok url := by
  obtain ⟨describe, root⟩ := secondaryRoot_eq given
  rw [root, ne_eq, mapError_eq_ok_iff, malformed]
  exact fun found => by cases found

theorem config_of_secondaryRoot {settings : Settings} {account : Text} {error : StorageError}
    (refused : secondaryRoot settings account = .error error) :
    ∃ fault, error = .config fault := by
  obtain ⟨source, given⟩ := settings.exists_secondarySource account
  obtain ⟨describe, root⟩ := secondaryRoot_eq given
  rw [root] at refused
  obtain ⟨fault, -, described⟩ := error_of_mapError refused
  exact ⟨_, described.symm⟩

/-! ## The service that the variables give -/

namespace Account

theorem secondary_eq_ok_iff {settings : Settings} {account : Account} :
    secondary settings = .ok account ↔
      settings.Holds "SECONDARY_ACCOUNT_NAME" account.name ∧
        settings.Holds "SECONDARY_ACCOUNT_KEY" account.key := by
  rw [← ofSettings?_eq_some_iff, secondary]
  cases ofSettings? settings "SECONDARY_ACCOUNT_NAME" "SECONDARY_ACCOUNT_KEY" with
  | none => simp
  | some found => rw [Except.ok.injEq, Option.some.injEq]

theorem config_of_secondary {settings : Settings} {error : StorageError}
    (refused : secondary settings = .error error) : ∃ fault, error = .config fault := by
  rw [secondary] at refused
  split at refused
  · cases refused
  · cases refused
    exact ⟨_, rfl⟩

end Account

def secondaryServiceOf (settings : Settings) : Except StorageError Service := do
  let account <- Account.secondary settings
  let url <- secondaryRoot settings account.name
  let credential <- account.credential
  return { url, pipeline := { credential := some credential, userAgent := none } }

theorem secondaryService_apply (session : Session) :
    ∃ log, secondaryService session =
      (secondaryServiceOf session.settings, { session with log }) := by
  cases named : Account.secondary session.settings with
  | error error => exact ⟨session.log, by simp [secondaryService, secondaryServiceOf, named]⟩
  | ok account =>
      cases chosen : Environment.secondary session.settings with
      | error error =>
          exact ⟨session.log, by
            simp [secondaryService, secondaryServiceOf, secondaryRoot, named, chosen]⟩
      | ok environment =>
          obtain ⟨log, made⟩ := account.serviceIn_apply environment session
          have given : secondaryServiceOf session.settings = account.serviceBy environment := by
            simp only [secondaryServiceOf, secondaryRoot, named, chosen, Account.serviceBy, ok_bind]
            cases environment.serviceRoot account.name with
            | error error => rfl
            | ok url => cases account.credential <;> rfl
          exact ⟨log, by simp [secondaryService, named, chosen, made, given]⟩

theorem secondaryServiceOf_eq_ok_iff {settings : Settings} {service : Service} :
    secondaryServiceOf settings = .ok service ↔
      ∃ name keyText key source url,
        settings.Holds "SECONDARY_ACCOUNT_NAME" name ∧
        settings.Holds "SECONDARY_ACCOUNT_KEY" keyText ∧
        Base64.encodeText key = Text.trim keyText ∧
        settings.SecondarySource name source ∧ Url.parse source = .ok url ∧
        service =
          { url, pipeline := { credential := some ⟨name, key⟩, userAgent := none } } := by
  constructor
  · intro made
    obtain ⟨account, named, rest⟩ := ok_of_bind made
    obtain ⟨url, root, rest⟩ := ok_of_bind rest
    obtain ⟨credential, keyed, rest⟩ := ok_of_bind rest
    obtain ⟨name, key⟩ := Account.secondary_eq_ok_iff.mp named
    obtain ⟨source, given, read⟩ := secondaryRoot_eq_ok_iff.mp root
    obtain ⟨-, own, written⟩ := Credential.ofText_eq_ok_iff.mp keyed
    refine ⟨account.name, account.key, credential.key, source, url, name, key, written, given,
      read, ?_⟩
    rw [← own]
    cases rest
    rfl
  · rintro ⟨name, keyText, key, source, url, named, keyed, written, given, read, rfl⟩
    have account : Account.secondary settings = .ok ⟨name, keyText⟩ :=
      Account.secondary_eq_ok_iff.mpr ⟨named, keyed⟩
    have root := secondaryRoot_eq_ok_iff.mpr ⟨source, given, read⟩
    have nonempty : name ≠ [] := by
      rintro rfl
      obtain ⟨c, member, -⟩ := named.filled
      cases member
    have credential : Account.credential ⟨name, keyText⟩ = .ok ⟨name, key⟩ :=
      Credential.ofText_eq_ok_iff.mpr ⟨nonempty, rfl, written⟩
    simp only [secondaryServiceOf, account, root, credential, ok_bind]
    rfl

theorem config_of_secondaryServiceOf {settings : Settings} {error : StorageError}
    (refused : secondaryServiceOf settings = .error error) : ∃ fault, error = .config fault := by
  rcases error_of_bind refused with missing | ⟨account, -, rest⟩
  · exact Account.config_of_secondary missing
  rcases error_of_bind rest with noRoot | ⟨url, -, rest⟩
  · exact config_of_secondaryRoot noRoot
  rcases error_of_bind rest with noKey | ⟨credential, -, rest⟩
  · exact Credential.config_of_ofText noKey
  · cases rest

def secondaryVariables : List Text :=
  ["SECONDARY_ACCOUNT_NAME", "SECONDARY_ACCOUNT_KEY", secondaryEndpointVariable,
    endpointVariable]

theorem secondaryServiceOf_congr {first second : Settings}
    (same : ∀ name ∈ secondaryVariables, first.lookup name = second.lookup name) :
    secondaryServiceOf first = secondaryServiceOf second := by
  simp only [secondaryVariables, List.forall_mem_cons] at same
  obtain ⟨name, key, own, shared, -⟩ := same
  have account : Account.secondary first = Account.secondary second := by
    rw [Account.secondary, Account.secondary, Account.ofSettings?_congr name key]
  simp only [secondaryServiceOf, secondaryRoot, account, Environment.secondary_congr own shared]

/-! ## What the service signs -/

/-- Every request for a handle of the service is signed with the credential: whatever is prepared
for it, wherever the service lives, and whatever arrives of an operation. -/
structure Service.SignsWith (service : Service) (credential : Credential) : Prop where
  prepared : ∀ names (operation : Operation), service.Derives names operation.handle →
    ∀ now (prepared : Request), operation.Prepares now prepared →
      (prepared.received operation.pipeline.userAgent).IsSigned operation.arrivalUrl credential
  /-- What can be asked for is prepared at every date, for a name that can stand in a field. -/
  prepares : ∀ names (operation : Operation), service.Derives names operation.handle →
    ∀ request, operation.request = .ok request → ∀ now : Instant, now.IsDate →
      Field.isValue (Text.Utf8.encode credential.accountName) = true →
        ∃ prepared, operation.Prepares now prepared
  received : ∀ names (operation : Operation), service.Derives names operation.handle →
    ∀ before, ∃ sent, (operation.perform before).2.received = before.received ++ sent ∧
      ∀ received ∈ sent, received.IsSigned operation.arrivalUrl credential

theorem Service.signsWith_of_credential {service : Service} {credential : Credential}
    (signs : service.pipeline.credential = some credential) : service.SignsWith credential := by
  -- A handle keeps the pipeline of the service that it is derived from.
  have signing {names : List Text} {operation : Operation}
      (derives : service.Derives names operation.handle) :
      operation.pipeline.credential = some credential := by
    rw [← operation.pipeline_handle, derives.pipeline_eq, signs]
  refine ⟨fun names operation derives now prepared prepares => prepares.isSigned (signing derives),
    fun names operation derives request built now date named =>
      Operation.prepares_of_named (signing derives) named built date,
    fun names operation derives before => ?_⟩
  obtain ⟨sent, whole, -, signed⟩ := Operation.perform_isSigned (signing derives) before
  exact ⟨sent, whole, signed⟩

/-- The secondary service is there exactly if the secondary account has a name and a key in
base64 and the source of its root is a URL, which then is the root; every other outcome is an
error of the configuration, in particular where the source is no URL.  Every request for a handle
of the service is signed with that name and that key, whichever source it has its root from, and
the variables of the primary account change nothing of all this. -/
theorem secondary_service_resolved (session : Session) :
    (∀ service, (secondaryService session).1 = .ok service ↔
      ∃ name keyText key source url,
        session.settings.Holds "SECONDARY_ACCOUNT_NAME" name ∧
        session.settings.Holds "SECONDARY_ACCOUNT_KEY" keyText ∧
        Base64.encodeText key = Text.trim keyText ∧
        session.settings.SecondarySource name source ∧ Url.parse source = .ok url ∧
        service =
          { url, pipeline := { credential := some ⟨name, key⟩, userAgent := none } }) ∧
    (∀ failure, (mapFailure Failure.error secondaryService session).1 = .error failure →
      ∃ fault, failure = .error (.config fault)) ∧
    (∀ name source fault, session.settings.Holds "SECONDARY_ACCOUNT_NAME" name →
      session.settings.SecondarySource name source → Url.parse source = .error fault →
      ∀ service, (secondaryService session).1 ≠ .ok service) ∧
    (∀ service, (secondaryService session).1 = .ok service →
      ∃ credential keyText, service.pipeline.credential = some credential ∧
        session.settings.Holds "SECONDARY_ACCOUNT_NAME" credential.accountName ∧
        session.settings.Holds "SECONDARY_ACCOUNT_KEY" keyText ∧
        Base64.encodeText credential.key = Text.trim keyText ∧
        service.SignsWith credential) ∧
    ∀ other : Session,
      (∀ name : Text, name ≠ "ACCOUNT_NAME" → name ≠ "ACCOUNT_KEY" →
        other.settings.lookup name = session.settings.lookup name) →
      (secondaryService other).1 = (secondaryService session).1 := by
  have result (session : Session) :
      (secondaryService session).1 = secondaryServiceOf session.settings := by
    obtain ⟨log, made⟩ := secondaryService_apply session
    rw [made]
  refine ⟨fun service => ?_, fun failure failed => ?_,
    fun name source fault named given malformed service made => ?_,
    fun service made => ?_, fun other same => ?_⟩
  · rw [result]
    exact secondaryServiceOf_eq_ok_iff
  · obtain ⟨log, made⟩ := secondaryService_apply session
    rw [Run.mapFailure_apply, made] at failed
    cases found : secondaryServiceOf session.settings with
    | error error =>
        rw [found] at failed
        cases failed
        obtain ⟨fault, rfl⟩ := config_of_secondaryServiceOf found
        exact ⟨fault, rfl⟩
    | ok service =>
        rw [found] at failed
        cases failed
  · rw [result] at made
    obtain ⟨account, found, rest⟩ := ok_of_bind made
    obtain ⟨url, root, -⟩ := ok_of_bind rest
    rw [(Account.secondary_eq_ok_iff.mp found).1.unique named] at root
    exact secondaryRoot_ne_ok given malformed url root
  · rw [result] at made
    obtain ⟨name, keyText, key, source, url, named, keyed, written, -, -, rfl⟩ :=
      secondaryServiceOf_eq_ok_iff.mp made
    exact ⟨⟨name, key⟩, keyText, rfl, named, keyed, written, Service.signsWith_of_credential rfl⟩
  · rw [result, result]
    have apart : ∀ name ∈ secondaryVariables,
        name ≠ "ACCOUNT_NAME".toList ∧ name ≠ "ACCOUNT_KEY".toList := by
      decide
    exact secondaryServiceOf_congr fun name member =>
      same name (apart name member).1 (apart name member).2

/-- Both accounts, and an endpoint that they share. -/
def Settings.sharedSample : Settings :=
  [("SECONDARY_ACCOUNT_NAME", Text.Utf8.encode "second"),
    ("SECONDARY_ACCOUNT_KEY", Text.Utf8.encode " AQID "),
    (endpointVariable, Text.Utf8.encode "\thttp://host:8080/base\n")]

/-- The second account alone, which then lives in the cloud. -/
def Settings.distantSample : Settings :=
  [("SECONDARY_ACCOUNT_NAME", Text.Utf8.encode "second"),
    ("SECONDARY_ACCOUNT_KEY", Text.Utf8.encode " AQID ")]

/-- The same with an endpoint of the second account that is no URL. -/
def Settings.malformedSample : Settings :=
  (secondaryEndpointVariable, Text.Utf8.encode "host") :: sharedSample

def Service.secondarySample : Service :=
  { url :=
      { scheme := "http"
        username := []
        password := []
        host := some (.domain "host")
        port := some 8080
        path := .segments ["base"]
        isSetApart := false
        query := none
        fragment := none }
    pipeline := { credential := some ⟨"second", [1, 2, 3]⟩, userAgent := none } }

def Service.distantSample : Service :=
  { secondarySample with
    url :=
      { secondarySample.url with
        scheme := "https"
        host := some (.domain "second.file.core.windows.net")
        port := none
        path := .segments [[]] } }

theorem secondary_service_resolved_shared :
    (secondaryService { Session.silentSample with settings := Settings.sharedSample }).1 =
        .ok Service.secondarySample ∧
      (secondaryService
        { Session.silentSample with
          settings := ("ACCOUNT_NAME", Text.Utf8.encode "first") :: Settings.sharedSample }).1 =
        .ok Service.secondarySample ∧
      (∃ received,
        ((Operation.deleteShare (Service.secondarySample.share "files")).perform
          Session.silentSample).2.received = [received] ∧
        received.IsSigned
          (Operation.deleteShare (Service.secondarySample.share "files")).arrivalUrl
          ⟨"second", [1, 2, 3]⟩) ∧
      (secondaryService { Session.silentSample with settings := Settings.distantSample }).1 =
        .ok Service.distantSample ∧
      (∃ prepared,
        (Operation.deleteShare (Service.distantSample.share "files")).Prepares ⟨671, 111111111⟩
          prepared ∧
        (prepared.received none).IsSigned
          (Operation.deleteShare (Service.distantSample.share "files")).arrivalUrl
          ⟨"second", [1, 2, 3]⟩) ∧
      ∃ fault,
        (mapFailure Failure.error secondaryService
          { Session.silentSample with settings := Settings.malformedSample }).1 =
          .error (.error (.config fault)) := by
  obtain ⟨found, -, -, signed, alike⟩ := secondary_service_resolved
    { Session.silentSample with settings := Settings.sharedSample }
  obtain ⟨-, failed, notSkipped, -, -⟩ := secondary_service_resolved
    { Session.silentSample with settings := Settings.malformedSample }
  obtain ⟨-, -, -, signedFar, -⟩ := secondary_service_resolved
    { Session.silentSample with settings := Settings.distantSample }
  have named : Settings.sharedSample.Holds "SECONDARY_ACCOUNT_NAME" "second" :=
    ⟨by decide +kernel, 's', by decide, by decide⟩
  have keyed : Settings.sharedSample.Holds "SECONDARY_ACCOUNT_KEY" " AQID " :=
    ⟨by decide +kernel, 'A', by decide, by decide⟩
  have noOwn : ∀ own, ¬ Settings.sharedSample.Holds secondaryEndpointVariable own := by
    have unset : Settings.sharedSample.lookup secondaryEndpointVariable = none := by
      decide +kernel
    intro own holds
    exact absurd (unset.symm.trans holds.bytes) (by simp)
  have shared : Settings.sharedSample.Holds endpointVariable "\thttp://host:8080/base\n" :=
    ⟨by decide +kernel, 'h', by decide, by decide⟩
  have read : Url.parse (Text.trim "\thttp://host:8080/base\n") =
      .ok Service.secondarySample.url := ok_of_toOption (by decide +kernel)
  have made := (found Service.secondarySample).mpr
    ⟨"second", " AQID ", [1, 2, 3], _, _, named, keyed, by decide +kernel,
      .shared noOwn shared, read, by decide +kernel⟩
  have far : (secondaryService
      { Session.silentSample with settings := Settings.distantSample }).1 =
      .ok Service.distantSample := ok_of_toOption (by decide +kernel)
  refine ⟨made, ?_, ?_, far, ?_, ?_⟩
  · rw [← made]
    refine alike _ fun name notName _ => ?_
    show List.lookup name ((_, _) :: _) = _
    rw [List.lookup_cons, beq_false_of_ne notName]
  · have derives : Service.secondarySample.Derives ["files".toList]
        (Operation.deleteShare (Service.secondarySample.share "files")).handle := .share _
    obtain ⟨credential, keyText, same, -, -, -, signs⟩ := signed _ made
    obtain rfl : (⟨"second", [1, 2, 3]⟩ : Credential) = credential := Option.some.inj same
    obtain ⟨sent, whole, signs⟩ := signs.received _ _ derives Session.silentSample
    have before : Session.silentSample.received = [] := rfl
    rw [before, List.nil_append] at whole
    have once : ((Operation.deleteShare (Service.secondarySample.share "files")).perform
        Session.silentSample).2.received.length = 1 := by decide +kernel
    rw [whole] at once
    obtain ⟨received, rfl⟩ := List.length_eq_one_iff.mp once
    exact ⟨received, whole, signs received List.mem_cons_self⟩
  · obtain ⟨credential, keyText, same, -, -, -, signs⟩ := signedFar _ far
    obtain rfl : (⟨"second", [1, 2, 3]⟩ : Credential) = credential := Option.some.inj same
    obtain ⟨request, built⟩ := ok_of_isOk (show
      (Operation.deleteShare (Service.distantSample.share "files")).request.isOk = true by
        decide +kernel)
    have derives : Service.distantSample.Derives ["files".toList]
        (Operation.deleteShare (Service.distantSample.share "files")).handle := .share _
    obtain ⟨prepared, prepares⟩ := signs.prepares _ _ derives request built
      ⟨671, 111111111⟩ (by decide) (by decide)
    exact ⟨prepared, prepares, signs.prepared _ _ derives _ prepared prepares⟩
  · have own : Settings.malformedSample.Holds secondaryEndpointVariable "host" :=
      ⟨by decide +kernel, 'h', by decide, by decide⟩
    have name : Settings.malformedSample.Holds "SECONDARY_ACCOUNT_NAME" "second" :=
      ⟨by decide +kernel, 's', by decide, by decide⟩
    obtain ⟨fault, malformed⟩ := error_of_isOk (show
      (Url.parse (Text.trim "host")).isOk = false by decide +kernel)
    cases outcome : (mapFailure Failure.error secondaryService
        { Session.silentSample with settings := Settings.malformedSample }).1 with
    | error failure =>
        obtain ⟨fault, rfl⟩ := failed failure outcome
        exact ⟨fault, rfl⟩
    | ok service =>
        rw [Run.mapFailure_apply] at outcome
        split at outcome
        · rename_i other after ran
          exact absurd (congrArg Prod.fst ran)
            (notSkipped _ _ fault name (.own own) malformed other)
        · cases outcome

end FileShare
