import FileShare.Scratch.Naming
import FileShare.Storage.Operation

/-!
# Scratch resources

Shares, directories and files with generated names.  `name…` only derives the
handle; `provide…` also creates the resource and stops unless the service
acknowledges it.
-/

set_option autoImplicit false

namespace FileShare.Scratch

structure Named (α : Type) where
  handle : α
  name : Text

def defaultData : Bytes := Text.asciiBytes "file default data"

def nameShare (service : Service) (start : Text) : Run Failure (Named Share) := do
  let name <- Naming.generate start
  return ⟨service.share name, name⟩

def nameDirectory (parent : Directory) (start : Text) : Run Failure (Named Directory) := do
  let name <- Naming.generate start
  return ⟨parent.directory name, name⟩

def nameFile (parent : Directory) (start : Text) : Run Failure (Named File) := do
  let name <- Naming.generate start
  return ⟨parent.file name, name⟩

/-- Stops unless the creation succeeded with the status of a new resource. -/
def requireCreated (kind name : Text) (creation : Run Failure Created) :
    Run Failure Unit := do
  match <- attempt creation with
  | .error (.stopped message) => throw (.stopped message)
  | .error (.error error) =>
      throw (.stopped ("failed to create " ++ kind ++ ' ' :: name ++ ": " ++ error.message))
  | .ok created =>
      if created.status = Status.created then return ()
      else throw (.stopped ("unexpected status creating " ++ kind ++ ' ' :: name))

def provideShare (service : Service) (start : Text) : Run Failure (Named Share) := do
  let named <- nameShare service start
  requireCreated "share" named.name (named.handle.create none 0)
  return named

def provideDirectory (parent : Directory) (start : Text) : Run Failure (Named Directory) := do
  let named <- nameDirectory parent start
  requireCreated "directory" named.name (named.handle.create none)
  return named

def provideFile (parent : Directory) (start : Text) (size : UInt64) :
    Run Failure (Named File) := do
  let named <- nameFile parent start
  requireCreated "file" named.name (named.handle.create size {} none)
  return named

def provideFilledFile (share : Share) : Run Failure (Named File) := do
  let named <- provideFile share.root Naming.filePrefix (UInt64.ofNat defaultData.length)
  match <- attempt (named.handle.uploadRange 0 defaultData) with
  | .ok _ => return named
  | .error (.stopped message) => throw (.stopped message)
  | .error (.error error) =>
      throw (.stopped ("failed to upload default data to " ++ named.name ++ ": " ++
        error.message))

/-- Deletes a share and logs how that went; an error goes no further. -/
def discardShare (share : Share) : Run Failure Unit := do
  match <- attempt share.delete with
  | .ok _ => logEntry .debug ("Cleaned up share " ++ share.name)
  | .error (.stopped message) => throw (.stopped message)
  | .error (.error error) =>
      logEntry .warn ("Failed to clean up share " ++ share.name ++ ": " ++ error.message)

end FileShare.Scratch
