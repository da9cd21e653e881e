import FileShare.Config.Environment
import FileShare.Storage.Handle

/-!
# Accounts

The accounts that the variables of the environment name.  The primary account
must be there: whoever asks for it is stopped without it.  The secondary one is
optional, and its absence is an error of the configuration.
-/

set_option autoImplicit false

namespace FileShare

structure Account where
  name : Text
  key : Text
deriving DecidableEq, Repr

namespace Account

/-- The account in descriptions of values; the key is left out. -/
def describe (account : Account) : Text :=
  "Account \x7b name: " ++ Text.quoted account.name ++ ", .. \x7d"

def credential (account : Account) : Except StorageError Credential :=
  Credential.ofText account.name account.key

/-- The service of the account in an environment.  The endpoint is looked at
before the key. -/
def serviceIn (account : Account) (environment : Environment) : Run StorageError Service := do
  let session <- get
  let url <- liftExcept (environment.serviceRoot account.name)
  let credential <- liftExcept account.credential
  let pipeline <- Pipeline.make (some credential)
    { timeoutSeconds := Environment.timeoutSeconds session.settings }
  return { url, pipeline }
where
  liftExcept {α : Type} (result : Except StorageError α) : Run StorageError α :=
    fun session => (result, session)

def service (account : Account) : Run StorageError Service := do
  let session <- get
  match Environment.ofSettings session.settings with
  | .error error => throw error
  | .ok environment => account.serviceIn environment

def ofSettings? (settings : Settings) (nameVariable keyVariable : Text) : Option Account :=
  match settings.filled? nameVariable, settings.filled? keyVariable with
  | some name, some key => some { name, key }
  | _, _ => none

def missingPrimaryMessage : Text :=
  "ACCOUNT_NAME and ACCOUNT_KEY environment vars must be set before running tests"

def primary (settings : Settings) : Except Failure Account :=
  match ofSettings? settings "ACCOUNT_NAME" "ACCOUNT_KEY" with
  | some account => .ok account
  | none => .error (.stopped missingPrimaryMessage)

def secondary (settings : Settings) : Except StorageError Account :=
  match ofSettings? settings "SECONDARY_ACCOUNT_NAME" "SECONDARY_ACCOUNT_KEY" with
  | some account => .ok account
  | none => .error (.config .missingSecondaryAccount)

end Account

def primaryService : Run Failure Service := do
  let session <- get
  match Account.primary session.settings with
  | .error failure => throw failure
  | .ok account =>
      mapFailure (fun error => .stopped ("failed to build service URL: " ++ error.message))
        account.service

def secondaryService : Run StorageError Service := do
  let session <- get
  match Account.secondary session.settings with
  | .error error => throw error
  | .ok account =>
      match Environment.secondary session.settings with
      | .error error => throw error
      | .ok environment => account.serviceIn environment

def primaryCredential (settings : Settings) : Except Failure (Credential × Text) :=
  match Account.primary settings with
  | .error failure => .error failure
  | .ok account =>
      match account.credential with
      | .error error => .error (.stopped ("failed to build credential: " ++ error.message))
      | .ok credential => .ok (credential, account.name)

end FileShare
