import FileShare.Storage.Metadata

/-!
# Results of operations

What a successful response says: about a resource that was created or written,
about one that was deleted, and about the properties of a file.
-/

set_option autoImplicit false

namespace FileShare

def requestIdField : Text := "x-ms-request-id"

structure Created where
  status : Nat
  etag : Option Text
  lastModified : Option Text
  requestId : Option Text
deriving DecidableEq, Repr

structure Deleted where
  status : Nat
  requestId : Option Text
deriving DecidableEq, Repr

structure FileProperties where
  contentLength : UInt64
  headers : FileHeaders
  metadata : Metadata
  etag : Option Text
deriving DecidableEq, Repr

namespace Created

def ofResponse (status : Nat) (fields : Fields) : Created :=
  { status
    etag := fields.text? "etag"
    lastModified := fields.text? "last-modified"
    requestId := fields.text? requestIdField }

def describe (result : Created) : Text :=
  "CreatedResponse \x7b status: " ++ Text.decimal result.status ++ ", etag: " ++
    Text.quotedOption result.etag ++ ", last_modified: " ++
    Text.quotedOption result.lastModified ++ ", request_id: " ++
    Text.quotedOption result.requestId ++ " \x7d"

end Created

namespace Deleted

def ofResponse (status : Nat) (fields : Fields) : Deleted :=
  { status, requestId := fields.text? requestIdField }

def describe (result : Deleted) : Text :=
  "DeletedResponse \x7b status: " ++ Text.decimal result.status ++ ", request_id: " ++
    Text.quotedOption result.requestId ++ " \x7d"

end Deleted

namespace FileProperties

/-- The properties that a response states.  A length that is missing or no number
is zero. -/
def ofResponse (fields : Fields) : FileProperties :=
  { contentLength := ((fields.text? "content-length").bind Text.readWord?).getD 0
    headers := FileHeaders.ofFields fields
    metadata := Metadata.ofFields fields
    etag := fields.text? "etag" }

def describe (properties : FileProperties) : Text :=
  "FileProperties \x7b content_length: " ++ Text.decimal properties.contentLength.toNat ++
    ", http_headers: " ++ properties.headers.describe ++ ", metadata: " ++
    properties.metadata.describe ++ ", etag: " ++ Text.quotedOption properties.etag ++ " \x7d"

end FileProperties

end FileShare
