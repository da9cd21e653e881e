import FileShare.Config.Account
import FileShare.Proofs.Session

/-!
# The services of accounts

The service of an account depends on the environment alone, and making it leaves the session
as it is but for the log.
-/

set_option autoImplicit false

namespace FileShare

namespace Account

def serviceBy (account : Account) (environment : Environment) : Except StorageError Service :=
  match environment.serviceRoot account.name with
  | .error error => .error error
  | .ok url =>
      match account.credential with
      | .error error => .error error
      | .ok credential =>
          .ok { url, pipeline := { credential := some credential, userAgent := none } }

theorem serviceIn_apply (account : Account) (environment : Environment) (session : Session) :
    ∃ log, account.serviceIn environment session =
      (account.serviceBy environment, { session with log }) := by
  cases root : environment.serviceRoot account.name with
  | error error =>
      exact ⟨session.log, by simp [serviceIn, serviceIn.liftExcept, serviceBy, root]⟩
  | ok url =>
      cases made : account.credential with
      | error error =>
          exact ⟨session.log, by simp [serviceIn, serviceIn.liftExcept, serviceBy, root, made]⟩
      | ok credential =>
          exact ⟨_, by
            simp [serviceIn, serviceIn.liftExcept, serviceBy, root, made, Pipeline.make]
            rfl⟩

theorem url_of_serviceIn {account : Account} {environment : Environment} {root : Url}
    (given : environment.serviceRoot account.name = .ok root) {session : Session}
    {service : Service} (made : (account.serviceIn environment session).1 = .ok service) :
    service.url = root := by
  obtain ⟨log, applied⟩ := account.serviceIn_apply environment session
  rw [applied, Account.serviceBy, given] at made
  dsimp only at made
  split at made
  · cases made
  · cases made
    rfl

def serviceOf (account : Account) (settings : Settings) : Except StorageError Service :=
  match Environment.ofSettings settings with
  | .error error => .error error
  | .ok environment => account.serviceBy environment

theorem service_apply (account : Account) (session : Session) :
    ∃ log, account.service session =
      (account.serviceOf session.settings, { session with log }) := by
  cases chosen : Environment.ofSettings session.settings with
  | error error => exact ⟨session.log, by simp [service, serviceOf, chosen]⟩
  | ok environment =>
      obtain ⟨log, made⟩ := account.serviceIn_apply environment session
      exact ⟨log, by simp [service, serviceOf, chosen, made]⟩

theorem serviceBy_signs {account : Account} {environment : Environment} {service : Service}
    (made : account.serviceBy environment = .ok service) :
    ∃ credential, service.pipeline.credential = some credential := by
  rw [serviceBy] at made
  split at made
  · cases made
  · split at made
    · cases made
    · cases made
      exact ⟨_, rfl⟩

theorem serviceOf_signs {account : Account} {settings : Settings} {service : Service}
    (made : account.serviceOf settings = .ok service) :
    ∃ credential, service.pipeline.credential = some credential := by
  rw [serviceOf] at made
  split at made
  · cases made
  · exact serviceBy_signs made

end Account

/-- The service that the variables give the primary account. -/
def primaryServiceOf (settings : Settings) : Except Failure Service :=
  match Account.primary settings with
  | .error failure => .error failure
  | .ok account =>
      match account.serviceOf settings with
      | .error error => .error (.stopped ("failed to build service URL: " ++ error.message))
      | .ok service => .ok service

theorem primaryService_apply (session : Session) :
    ∃ log, primaryService session = (primaryServiceOf session.settings, { session with log }) := by
  cases named : Account.primary session.settings with
  | error failure => exact ⟨session.log, by simp [primaryService, primaryServiceOf, named]⟩
  | ok account =>
      obtain ⟨log, made⟩ := account.service_apply session
      refine ⟨log, ?_⟩
      cases given : account.serviceOf session.settings with
      | error error => simp [primaryService, primaryServiceOf, named, made, given]
      | ok service => simp [primaryService, primaryServiceOf, named, made, given]

theorem account_of_primaryServiceOf {settings : Settings} {service : Service}
    (made : primaryServiceOf settings = .ok service) :
    ∃ account, Account.primary settings = .ok account ∧
      account.serviceOf settings = .ok service := by
  rw [primaryServiceOf] at made
  split at made
  · cases made
  · rename_i account named
    split at made
    · cases made
    · rename_i found given
      cases made
      exact ⟨account, named, given⟩

end FileShare
