import FileShare.Clock
import FileShare.Http.Detour
import FileShare.Text.Quoted

/-!
# Errors

Everything that can go wrong in an operation, by cause, and its wording.  A
service error carries what the service said; the other errors mean that there
was no answer to speak of, that a text is no URL, that the configuration cannot
be used, or that an argument is refused before anything is sent.
-/

set_option autoImplicit false

namespace FileShare

inductive ConfigFault where
  | emptyAccountName
  | malformedKey (fault : Base64.Fault)
  | malformedEndpoint (variableName value : Text) (fault : UrlFault)
  | malformedAccountName (account : Text) (fault : UrlFault)
  | missingSecondaryAccount
  | malformedUserAgent
  | stated (reason : Text)
deriving DecidableEq, Repr

def ConfigFault.message : ConfigFault -> Text
  | .emptyAccountName => "account name must not be empty"
  | .malformedKey fault => "account key is not valid base64: " ++ fault.message
  | .malformedEndpoint variableName value fault =>
      "Invalid " ++ variableName ++ ' ' :: value ++ ": " ++ fault.message
  | .malformedAccountName account fault =>
      "Invalid storage account name " ++ account ++ ": " ++ fault.message
  | .missingSecondaryAccount =>
      "SECONDARY_ACCOUNT_NAME and/or SECONDARY_ACCOUNT_KEY environment variables not specified"
  | .malformedUserAgent => "failed to build HTTP client: builder error"
  | .stated reason => reason

inductive InputFault where
  | emptyUpload
  /-- A range whose last byte has no 64-bit offset. -/
  | rangePastEnd (length offset : Nat)
  | rootDirectory
  | malformedValue (value : Text)
  | stated (reason : Text)
deriving DecidableEq, Repr

def InputFault.message : InputFault -> Text
  | .emptyUpload => "range upload body must not be empty"
  | .rangePastEnd length offset =>
      "range of " ++ Text.decimal length ++ " bytes at offset " ++ Text.decimal offset ++
        " exceeds the addressable size"
  | .rootDirectory => "the root directory always exists"
  | .malformedValue value =>
      "invalid header value " ++ Text.quoted value ++ ": failed to parse header value"
  | .stated reason => reason

structure ServiceReport where
  status : Nat
  code : Text
  message : Text
  requestId : Option Text
deriving DecidableEq, Repr

inductive StorageError where
  | service (report : ServiceReport)
  | transport (fault : TransportFault)
  | url (fault : UrlFault)
  | config (fault : ConfigFault)
  | input (fault : InputFault)
deriving DecidableEq, Repr

def Text.quotedOption : Option Text -> Text
  | none => "None"
  | some text => "Some(" ++ quoted text ++ [')']

namespace StorageError

def message : StorageError -> Text
  | .service report =>
      "Service error " ++ Status.toText report.status ++ " (" ++ report.code ++ "): " ++
        report.message
  | .transport fault => "Transport error: " ++ fault.message
  | .url fault => "Invalid URL: " ++ fault.message
  | .config fault => "Configuration error: " ++ fault.message
  | .input fault => "Invalid input: " ++ fault.message

def describe : StorageError -> Text
  | .service report =>
      "Service \x7b status: " ++ Text.decimal report.status ++ ", code: ServiceCode(" ++
        Text.quoted report.code ++ "), message: " ++ Text.quoted report.message ++
        ", request_id: " ++ Text.quotedOption report.requestId ++ " \x7d"
  | .transport fault => "Transport(" ++ fault.message ++ [')']
  | .url fault => "InvalidUrl(" ++ fault.label ++ [')']
  | .config fault => "Config(" ++ Text.quoted fault.message ++ [')']
  | .input fault => "InvalidInput(" ++ Text.quoted fault.message ++ [')']

def serviceCode? : StorageError -> Option Text
  | .service report => some report.code
  | _ => none

def status? : StorageError -> Option Nat
  | .service report => some report.status
  | _ => none

def isConflict (error : StorageError) : Bool := error.status? == some Status.conflict

end StorageError

/-- Why a run did not come to an end: an error of an operation, or a condition
under which it stops with a message. -/
inductive Failure where
  | error (error : StorageError)
  | stopped (message : Text)
deriving DecidableEq, Repr

end FileShare
