import FileShare.Error
import FileShare.Hash.Hmac
import FileShare.Text.Blank

/-!
# Credentials

The name of a storage account and its key.  The key is given in base64, with
white space around it ignored, and signs texts by a keyed digest.
-/

set_option autoImplicit false

namespace FileShare

structure Credential where
  accountName : Text
  key : Bytes
deriving DecidableEq, Repr

namespace Credential

/-- The credential of a name and a key text.  The name is looked at first. -/
def ofText (accountName keyText : Text) : Except StorageError Credential :=
  if accountName.isEmpty then .error (.config .emptyAccountName)
  else
    match Base64.decode (Text.Utf8.encode (Text.trim keyText)) with
    | .error fault => .error (.config (.malformedKey fault))
    | .ok key => .ok { accountName, key }

def sign (credential : Credential) (text : Text) : Text :=
  Base64.encodeText (Hmac.digest credential.key (Text.Utf8.encode text))

/-- The credential in descriptions of values; the key is left out. -/
def describe (credential : Credential) : Text :=
  "SharedKeyCredential \x7b account_name: " ++ Text.quoted credential.accountName ++ ", .. \x7d"

end Credential

end FileShare
