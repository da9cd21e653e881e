import FileShare.Storage.Pipeline
import FileShare.Url.Parser

/-!
# Environments

Where the file service lives: in the public cloud, with one host for each
account, or at a fixed endpoint.  The variables of the environment choose it.  A
variable counts as set when its value is text that is not blank.
-/

set_option autoImplicit false

namespace FileShare

def endpointVariable : Text := "AZFILE_ENDPOINT"

def secondaryEndpointVariable : Text := "SECONDARY_AZFILE_ENDPOINT"

def timeoutVariable : Text := "AZFILE_TIMEOUT_SECS"

def levelVariable : Text := "TRACING_LEVEL"

/-- The value of a variable that is set to more than blanks. -/
def Settings.filled? (settings : Settings) (name : Text) : Option Text :=
  (settings.text? name).filter fun value => !(Text.trim value).isEmpty

def Settings.endpoint? (settings : Settings) (name : Text) :
    Except StorageError (Option Url) :=
  match settings.filled? name with
  | none => .ok none
  | some value =>
      match Url.parse (Text.trim value) with
      | .ok url => .ok (some url)
      | .error fault => .error (.config (.malformedEndpoint name (Text.trim value) fault))

inductive Environment where
  | cloud
  | fixed (endpoint : Url)
deriving DecidableEq, Repr

namespace Environment

def ofEndpoint? (endpoint : Option Url) : Environment := endpoint.elim .cloud .fixed

def ofSettings (settings : Settings) : Except StorageError Environment :=
  (settings.endpoint? endpointVariable).map ofEndpoint?

/-- The environment of the secondary account: its own endpoint if it has one,
otherwise the one of both accounts. -/
def secondary (settings : Settings) : Except StorageError Environment :=
  match settings.endpoint? secondaryEndpointVariable with
  | .error error => .error error
  | .ok (some endpoint) => .ok (.fixed endpoint)
  | .ok none => ofSettings settings

def cloudUrlText (account : Text) : Text := "https://" ++ account ++ ".file.core.windows.net/"

/-- The root URL of the service for an account.  A fixed endpoint serves all. -/
def serviceRoot (environment : Environment) (account : Text) : Except StorageError Url :=
  match environment with
  | .fixed endpoint => .ok endpoint
  | .cloud =>
      match Url.parse (cloudUrlText account) with
      | .ok url => .ok url
      | .error fault => .error (.config (.malformedAccountName account fault))

def defaultTimeout : UInt64 := 30

def timeoutSeconds (settings : Settings) : UInt64 :=
  ((settings.text? timeoutVariable).bind Text.readWord?).getD defaultTimeout

/-- The level of a text: a number from one to five, or a name in any case. -/
def readLevel? (text : Text) : Option LogLevel :=
  let named := [LogLevel.error, .warn, .info, .debug, .trace].find? fun level =>
    Text.asciiLower level.label == Text.asciiLower text
  match Text.readWord? text with
  | some 1 => some .error
  | some 2 => some .warn
  | some 3 => some .info
  | some 4 => some .debug
  | some 5 => some .trace
  | some _ => none
  | none => named

def logLevel (environment : Environment) (settings : Settings) : LogLevel :=
  let default :=
    match environment with
    | .cloud => .info
    | .fixed _ => .debug
  ((settings.text? levelVariable).bind readLevel?).getD default

end Environment

def orStop {α : Type} (describe : StorageError -> Text) :
    Except StorageError α -> Except Failure α
  | .ok a => .ok a
  | .error error => .error (.stopped (describe error))

end FileShare
