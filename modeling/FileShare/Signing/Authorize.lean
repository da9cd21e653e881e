import FileShare.Error
import FileShare.Signing.Canonical
import FileShare.Signing.Credential

/-!
# Authorizing requests

A request is stamped with the date and the service version and then signed.
Each of the three fields replaces any earlier one, and the authorization is not
part of what is signed.  Nothing is signed while the clock shows no date.
-/

set_option autoImplicit false

namespace FileShare

def serviceVersion : Text := "2019-02-02"

def dateField : Text := "x-ms-date"

def versionField : Text := "x-ms-version"

def authorizationField : Text := "authorization"

def fieldValue (text : Text) : Except StorageError Bytes :=
  if Field.isValue (Text.Utf8.encode text) then .ok (Text.Utf8.encode text)
  else .error (.input (.malformedValue text))

namespace Request

def stamped (request : Request) (now : Instant) : Request :=
  (request.setField dateField (Text.asciiBytes now.httpDate)).setField versionField
    (Text.asciiBytes serviceVersion)

def authorization (request : Request) (credential : Credential) : Text :=
  "SharedKey " ++ credential.accountName ++ ':' ::
    credential.sign (Canonical.stringToSign credential.accountName request)

/-- The request stamped and signed; stops if the reading is no date, and fails if
the account name cannot stand in a field. -/
def authorize (request : Request) (credential : Credential) (now : Instant) :
    Except Failure Request :=
  match now.dated with
  | .error fault => .error (.stopped fault.message)
  | .ok date =>
      let stamped := request.stamped date
      match fieldValue (stamped.authorization credential) with
      | .error error => .error (.error error)
      | .ok value => .ok (stamped.setField authorizationField value)

end Request

end FileShare
