import FileShare.Config.Account
import FileShare.Proofs.Storage.Outcome
import FileShare.Url.Parser

/-!
# Conversations

A client makes a credential, a pipeline and a service, derives handles and asks for
operations on them, and goes on whatever comes of an operation.  What it gets to see are the
descriptions of what it made, the handles, and the outcomes.
-/

set_option autoImplicit false

namespace FileShare

/-- What is asked of a handle, with all arguments. -/
inductive Task where
  | createShare (metadata : Option Metadata) (quotaGib : UInt32)
  | deleteShare
  | createDirectory (metadata : Option Metadata)
  | deleteDirectory
  | createFile (size : UInt64) (headers : FileHeaders) (metadata : Option Metadata)
  | uploadRange (offset : UInt64) (data : Bytes)
  | download (offset : UInt64) (count : Option UInt64)
  | fileProperties
  | deleteFile

/-- The operation that does the task, if the handle is of the kind for it. -/
def Task.on? : Task -> Handle -> Option Operation
  | .createShare metadata quotaGib, .share target => some (.createShare target metadata quotaGib)
  | .deleteShare, .share target => some (.deleteShare target)
  | .createDirectory metadata, .directory target => some (.createDirectory target metadata)
  | .deleteDirectory, .directory target => some (.deleteDirectory target)
  | .createFile size headers metadata, .file target =>
      some (.createFile target size headers metadata)
  | .uploadRange offset data, .file target => some (.uploadRange target offset data)
  | .download offset count, .file target => some (.download target offset count)
  | .fileProperties, .file target => some (.fileProperties target)
  | .deleteFile, .file target => some (.deleteFile target)
  | _, _ => none

namespace Handle

def root? : Handle -> Option Handle
  | .share target => some (.directory target.root)
  | _ => none

def directory? (name : Text) : Handle -> Option Handle
  | .share target => some (.directory (target.directory name))
  | .directory target => some (.directory (target.directory name))
  | .file _ => none

def file? (name : Text) : Handle -> Option Handle
  | .directory target => some (.file (target.file name))
  | _ => none

end Handle

/-- How a new handle is made; the earlier ones are numbered in their order. -/
inductive Derivation where
  | share (name : Text)
  | root (parent : Nat)
  | directory (parent : Nat) (name : Text)
  | file (parent : Nat) (name : Text)

inductive Step where
  | derive (derivation : Derivation)
  | ask (handle : Nat) (task : Task)

/-- A service with the handles made of it so far. -/
structure Client where
  service : Service
  handles : List Handle

/-- What a client gets to see. -/
inductive Answer where
  | text (text : Text)
  | handle (url name : Text)
  | outcome (result : Except Failure Outcome)
  /-- There is no such handle. -/
  | nothing

namespace Client

def derive? (client : Client) : Derivation -> Option Handle
  | .share name => some (.share (client.service.share name))
  | .root parent => client.handles[parent]?.bind Handle.root?
  | .directory parent name => client.handles[parent]?.bind (Handle.directory? name)
  | .file parent name => client.handles[parent]?.bind (Handle.file? name)

def keep (client : Client) (handle : Handle) : Client :=
  { client with handles := client.handles ++ [handle] }

/-- Takes one step; a failed operation is an answer like any other. -/
def take (client : Client) : Step -> Run Failure (Client × Answer)
  | .derive derivation =>
      match client.derive? derivation with
      | some handle => pure (client.keep handle, .handle handle.url.toText handle.name)
      | none => pure (client, .nothing)
  | .ask handle task =>
      match client.handles[handle]?.bind task.on? with
      | some operation => do
          let result <- attempt operation.offer
          return (client, .outcome result)
      | none => pure (client, .nothing)

def converse (client : Client) : List Step -> Run Failure (List Answer)
  | [] => pure []
  | step :: rest => do
      let (client, answer) <- client.take step
      let answers <- client.converse rest
      return answer :: answers

end Client

/-- A whole conversation, from the text of the key on. -/
def Account.converse (account : Account) (options : PipelineOptions) (endpoint : Text)
    (steps : List Step) : Run Failure (List Answer) :=
  match account.credential with
  | .error error => throw (.error error)
  | .ok credential =>
      match Url.parse endpoint with
      | .error fault => throw (.error (.url fault))
      | .ok url => do
          let pipeline <- mapFailure Failure.error (Pipeline.make (some credential) options)
          let answers <- Client.converse ⟨⟨url, pipeline⟩, []⟩ steps
          return .text account.describe :: .text credential.describe ::
            .text pipeline.describe :: answers

/-! ## Another key -/

def Pipeline.rekeyed (pipeline : Pipeline) (key : Bytes) : Pipeline :=
  { pipeline with credential := pipeline.credential.map fun credential => { credential with key } }

namespace Handle

def rekeyed (key : Bytes) : Handle -> Handle
  | .share target => .share { target with pipeline := target.pipeline.rekeyed key }
  | .directory target => .directory { target with pipeline := target.pipeline.rekeyed key }
  | .file target => .file { target with pipeline := target.pipeline.rekeyed key }

variable (handle : Handle) (key : Bytes)

theorem url_rekeyed : (handle.rekeyed key).url = handle.url := by
  cases handle <;> rfl

theorem name_rekeyed : (handle.rekeyed key).name = handle.name := by
  cases handle <;> rfl

theorem root?_rekeyed : (handle.rekeyed key).root? = handle.root?.map (rekeyed key) := by
  cases handle <;> rfl

theorem directory?_rekeyed (name : Text) :
    (handle.rekeyed key).directory? name = (handle.directory? name).map (rekeyed key) := by
  cases handle <;> rfl

theorem file?_rekeyed (name : Text) :
    (handle.rekeyed key).file? name = (handle.file? name).map (rekeyed key) := by
  cases handle <;> rfl

end Handle

/-- The operation on the same handle with another key. -/
def Operation.rekeyed (key : Bytes) : Operation -> Operation
  | .createShare share metadata quotaGib =>
      .createShare { share with pipeline := share.pipeline.rekeyed key } metadata quotaGib
  | .deleteShare share => .deleteShare { share with pipeline := share.pipeline.rekeyed key }
  | .createDirectory directory metadata =>
      .createDirectory { directory with pipeline := directory.pipeline.rekeyed key } metadata
  | .deleteDirectory directory =>
      .deleteDirectory { directory with pipeline := directory.pipeline.rekeyed key }
  | .createFile file size headers metadata =>
      .createFile { file with pipeline := file.pipeline.rekeyed key } size headers metadata
  | .uploadRange file offset data =>
      .uploadRange { file with pipeline := file.pipeline.rekeyed key } offset data
  | .download file offset count =>
      .download { file with pipeline := file.pipeline.rekeyed key } offset count
  | .fileProperties file => .fileProperties { file with pipeline := file.pipeline.rekeyed key }
  | .deleteFile file => .deleteFile { file with pipeline := file.pipeline.rekeyed key }

theorem Task.on?_rekeyed (task : Task) (handle : Handle) (key : Bytes) :
    task.on? (handle.rekeyed key) = (task.on? handle).map (Operation.rekeyed key) := by
  cases task <;> cases handle <;> rfl

namespace Operation

variable (operation : Operation) (key : Bytes)

theorem pipeline_rekeyed :
    (operation.rekeyed key).pipeline = operation.pipeline.rekeyed key := by
  cases operation <;> rfl

theorem request_rekeyed : (operation.rekeyed key).request = operation.request := by
  cases operation with
  | download file offset count => cases count <;> rfl
  | _ => rfl

theorem isIdle_rekeyed : (operation.rekeyed key).isIdle = operation.isIdle := by
  cases operation with
  | download file offset count => cases count <;> rfl
  | _ => rfl

theorem expected_rekeyed : (operation.rekeyed key).expected = operation.expected := by
  cases operation <;> rfl

theorem settle_rekeyed : (operation.rekeyed key).settle = operation.settle := by
  cases operation <;> rfl

end Operation

namespace Client

def rekeyed (client : Client) (key : Bytes) : Client :=
  { service := { client.service with pipeline := client.service.pipeline.rekeyed key }
    handles := client.handles.map (Handle.rekeyed key) }

theorem handles_rekeyed (client : Client) (key : Bytes) (place : Nat) :
    (client.rekeyed key).handles[place]? =
      client.handles[place]?.map (Handle.rekeyed key) := by
  rw [rekeyed, List.getElem?_map]

theorem keep_rekeyed (client : Client) (key : Bytes) (handle : Handle) :
    (client.rekeyed key).keep (handle.rekeyed key) = (client.keep handle).rekeyed key := by
  simp [keep, rekeyed]

theorem derive?_rekeyed (client : Client) (key : Bytes) (derivation : Derivation) :
    (client.rekeyed key).derive? derivation =
      (client.derive? derivation).map (Handle.rekeyed key) := by
  have child (place : Nat) {next : Handle → Option Handle}
      (commutes : ∀ handle : Handle, next (handle.rekeyed key) =
        (next handle).map (Handle.rekeyed key)) :
      (client.rekeyed key).handles[place]?.bind next =
        (client.handles[place]?.bind next).map (Handle.rekeyed key) := by
    rw [client.handles_rekeyed key place]
    cases client.handles[place]? with
    | none => rfl
    | some handle => exact commutes handle
  cases derivation with
  | share name => rfl
  | root parent => exact child parent fun handle => handle.root?_rekeyed key
  | directory parent name => exact child parent fun handle => handle.directory?_rekeyed key name
  | file parent name => exact child parent fun handle => handle.file?_rekeyed key name

theorem ask_rekeyed (client : Client) (key : Bytes) (place : Nat) (task : Task) :
    (client.rekeyed key).handles[place]?.bind task.on? =
      (client.handles[place]?.bind task.on?).map (Operation.rekeyed key) := by
  rw [client.handles_rekeyed key place]
  cases client.handles[place]? with
  | none => rfl
  | some handle => exact task.on?_rekeyed handle key

end Client

end FileShare
