import FileShare.Storage.Handle

/-!
# Operations

The nine operations on handles.  Each one either is refused at once, or is
answered without a request, or sends one request through its pipeline and accepts
a fixed list of statuses.  The functions below the type run an operation and read its
response.
-/

set_option autoImplicit false

namespace FileShare

inductive Operation where
  /-- Creates a share; a quota of zero leaves the size to the service. -/
  | createShare (share : Share) (metadata : Option Metadata) (quotaGib : UInt32)
  /-- Deletes a share with its snapshots. -/
  | deleteShare (share : Share)
  | createDirectory (directory : Directory) (metadata : Option Metadata)
  | deleteDirectory (directory : Directory)
  | createFile (file : File) (size : UInt64) (headers : FileHeaders)
      (metadata : Option Metadata)
  | uploadRange (file : File) (offset : UInt64) (data : Bytes)
  /-- Reads a number of bytes from an offset, or all that follow it. -/
  | download (file : File) (offset : UInt64) (count : Option UInt64)
  | fileProperties (file : File)
  | deleteFile (file : File)
deriving DecidableEq, Repr

/-- The offset of the last byte of a range that is not empty. -/
def rangeEnd (offset length : Nat) : Except InputFault Nat :=
  if offset + (length - 1) < UInt64.size then .ok (offset + (length - 1))
  else .error (.rangePastEnd length offset)

def textField (name value : Text) : Text × Bytes := (name, Text.Utf8.encode value)

def rangeText (first last : Nat) : Text :=
  "bytes=" ++ Text.decimal first ++ '-' :: Text.decimal last

def openRangeText (first : Nat) : Text := "bytes=" ++ Text.decimal first ++ ['-']

def metadataFields (metadata : Option Metadata) : List (Text × Bytes) :=
  metadata.elim [] Metadata.toFields

/-- The fields that every new directory and file takes over from its parent and
from the moment of its creation. -/
def inheritedFields (attributes : Text) : List (Text × Bytes) :=
  [textField "x-ms-file-permission" "inherit", textField "x-ms-file-attributes" attributes,
    textField "x-ms-file-creation-time" "now", textField "x-ms-file-last-write-time" "now"]

namespace Operation

def url : Operation -> Url
  | .createShare share _ _ => share.url
  | .deleteShare share => share.url
  | .createDirectory directory _ => directory.url
  | .deleteDirectory directory => directory.url
  | .createFile file _ _ _ => file.url
  | .uploadRange file _ _ => file.url
  | .download file _ _ => file.url
  | .fileProperties file => file.url
  | .deleteFile file => file.url

def pipeline : Operation -> Pipeline
  | .createShare share _ _ => share.pipeline
  | .deleteShare share => share.pipeline
  | .createDirectory directory _ => directory.pipeline
  | .deleteDirectory directory => directory.pipeline
  | .createFile file _ _ _ => file.pipeline
  | .uploadRange file _ _ => file.pipeline
  | .download file _ _ => file.pipeline
  | .fileProperties file => file.pipeline
  | .deleteFile file => file.pipeline

def method : Operation -> Text
  | .createShare .. | .createDirectory .. | .createFile .. | .uploadRange .. => "PUT"
  | .deleteShare _ | .deleteDirectory _ | .deleteFile _ => "DELETE"
  | .download .. => "GET"
  | .fileProperties _ => "HEAD"

def queryPair? : Operation -> Option (Text × Text)
  | .createShare .. | .deleteShare _ => some ("restype".toList, "share".toList)
  | .createDirectory .. | .deleteDirectory _ => some ("restype".toList, "directory".toList)
  | .uploadRange .. => some ("comp".toList, "range".toList)
  | _ => none

def expected : Operation -> List Nat
  | .createShare .. | .createDirectory .. | .createFile .. | .uploadRange .. => [Status.created]
  | .deleteShare _ | .deleteDirectory _ | .deleteFile _ => [Status.accepted]
  | .download .. => [Status.ok, Status.partialContent]
  | .fileProperties _ => [Status.ok]

def body? : Operation -> Option Bytes
  | .uploadRange _ _ data => some data
  | _ => none

/-- The fields that the operation sends, in the order in which they are added. -/
def fields : Operation -> Except InputFault (List (Text × Bytes))
  | .createShare _ metadata quotaGib =>
      let quota :=
        if quotaGib = 0 then []
        else [textField "x-ms-share-quota" (Text.decimal quotaGib.toNat)]
      .ok (quota ++ metadataFields metadata)
  | .deleteShare _ => .ok [textField "x-ms-delete-snapshots" "include"]
  | .createDirectory directory metadata =>
      if directory.isRoot then .error .rootDirectory
      else .ok (inheritedFields "Directory" ++ metadataFields metadata)
  | .createFile _ size headers metadata =>
      .ok ([textField "x-ms-type" "file",
          textField "x-ms-content-length" (Text.decimal size.toNat)] ++
        inheritedFields "None" ++ headers.toFields ++ metadataFields metadata)
  | .uploadRange _ offset data =>
      if data.isEmpty then .error .emptyUpload
      else do
        let last <- rangeEnd offset.toNat data.length
        .ok [textField "x-ms-range" (rangeText offset.toNat last),
          textField "x-ms-write" "update",
          textField "content-length" (Text.decimal data.length)]
  | .download _ offset (some count) => do
      let last <- rangeEnd offset.toNat count.toNat
      .ok [textField "x-ms-range" (rangeText offset.toNat last)]
  | .download _ offset none =>
      .ok (if offset = 0 then [] else [textField "x-ms-range" (openRangeText offset.toNat)])
  | .deleteDirectory _ | .fileProperties _ | .deleteFile _ => .ok []

/-- Whether the answer is known without a request: nothing is to be read. -/
def isIdle : Operation -> Bool
  | .download _ _ (some count) => count == 0
  | _ => false

def request (operation : Operation) : Except StorageError Request :=
  match operation.fields with
  | .error fault => .error (.input fault)
  | .ok fields =>
      match Request.start operation.method operation.url with
      | .error fault => .error (.transport fault)
      | .ok begun =>
          let asked :=
            match operation.queryPair? with
            | none => begun
            | some (name, value) => { begun with url := begun.url.withPair name value }
          match asked.addFields fields with
          | .error fault => .error (.transport fault)
          | .ok built => .ok { built with body := operation.body? }

/-- Runs the operation: nothing for one that needs no request, otherwise its
response. -/
def run (operation : Operation) : Run Failure (Option Response) := do
  if operation.isIdle then return none
  else
    match operation.request with
    | .error error => throw (.error error)
    | .ok request => return some (<- operation.pipeline.send request operation.expected)

def runCreated (operation : Operation) : Run Failure Created := do
  let response <- operation.run
  return response.elim (.ofResponse Status.created []) fun r => .ofResponse r.status r.fields

def runDeleted (operation : Operation) : Run Failure Deleted := do
  let response <- operation.run
  return response.elim (.ofResponse Status.accepted []) fun r => .ofResponse r.status r.fields

end Operation

namespace Share

def create (share : Share) (metadata : Option Metadata) (quotaGib : UInt32) :
    Run Failure Created := do
  let result <- (Operation.createShare share metadata quotaGib).runCreated
  logEntry .info ("Created share " ++ share.name)
  return result

def delete (share : Share) : Run Failure Deleted := do
  let result <- (Operation.deleteShare share).runDeleted
  logEntry .info ("Deleted share " ++ share.name)
  return result

end Share

namespace Directory

def create (directory : Directory) (metadata : Option Metadata) : Run Failure Created :=
  (Operation.createDirectory directory metadata).runCreated

def delete (directory : Directory) : Run Failure Deleted :=
  (Operation.deleteDirectory directory).runDeleted

end Directory

namespace File

def create (file : File) (size : UInt64) (headers : FileHeaders) (metadata : Option Metadata) :
    Run Failure Created :=
  (Operation.createFile file size headers metadata).runCreated

def uploadRange (file : File) (offset : UInt64) (data : Bytes) : Run Failure Created :=
  (Operation.uploadRange file offset data).runCreated

def download (file : File) (offset : UInt64) (count : Option UInt64) :
    Run Failure Bytes := do
  match <- (Operation.download file offset count).run with
  | none => return []
  | some response =>
      match response.body with
      | some bytes => return bytes
      | none => throw (.error (.transport .truncatedBody))

def properties (file : File) : Run Failure FileProperties := do
  let response <- (Operation.fileProperties file).run
  return .ofResponse (response.elim [] (·.fields))

def delete (file : File) : Run Failure Deleted := (Operation.deleteFile file).runDeleted

end File

end FileShare
