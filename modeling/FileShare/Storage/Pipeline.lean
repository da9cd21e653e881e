import FileShare.Session
import FileShare.Signing.Authorize
import FileShare.Storage.Result

/-!
# Pipelines

A pipeline carries the credential and the client settings that all handles of a
service share.  Sending a request means one signing step, one exchange with the
peer, and a look at the status: the expected ones give the response, any other
one the report of the service.
-/

set_option autoImplicit false

namespace FileShare

structure PipelineOptions where
  timeoutSeconds : UInt64 := 30
  userAgent : Option Text := none
deriving DecidableEq, Repr

structure Pipeline where
  credential : Option Credential
  userAgent : Option Text
deriving DecidableEq, Repr

/-- A put request without a body announces a length of zero. -/
def Request.announced (request : Request) : Request :=
  if request.body.isNone && request.method == "PUT" then
    request.setField "content-length" (Text.asciiBytes "0")
  else request

/-- What the service said in a response that was not expected.  A body that was
cut short counts as empty. -/
def ServiceReport.ofResponse (response : Response) : ServiceReport :=
  { status := response.status
    code := response.fields.text "x-ms-error-code"
    message := (response.body.map Text.Utf8.decode).getD []
    requestId := response.fields.text? requestIdField }

def Peer.answer : Peer -> Option PeerAction × Peer
  | .unreachable => (none, .unreachable)
  | .scripted [] last => (some last, .scripted [] last)
  | .scripted (action :: rest) last => (some action, .scripted rest last)

/-- Why a request for this URL does not arrive. -/
def Peer.obstacle? (peer : Peer) (url : Url) : Option TransportFault :=
  if !Request.isUsableUrl url then some (.unusableUrl url.toText)
  else if peer = .unreachable then some (.noReply url.toText)
  else none

namespace Request

def outcome (request : Request) : Option PeerAction -> Except StorageError Response
  | some (.reply reply) => .ok (reply.seen request.method)
  | _ => .error (.transport (.noReply request.url.toText))

def onward? (request : Request) (detours : Detours) : Option PeerAction -> Option Request
  | some (.reply reply) => request.next? detours (reply.seen request.method)
  | _ => none

end Request

structure Journey where
  result : Except StorageError Response
  peer : Peer
  followed : List Received

/-- The journey of a request that arrives, with so many detours at most. -/
def travel (detours : Detours) (userAgent : Option Text) : Nat -> Request -> Peer -> Journey
  | most, request, peer =>
      let (action, next) := peer.answer
      match request.onward? detours action with
      | none => { result := request.outcome action, peer := next, followed := [] }
      | some onward =>
          match most, next.obstacle? onward.url with
          | 0, _ =>
              { result := .error (.transport (.tooManyDetours request.url.toText))
                peer := next
                followed := [] }
          | _, some fault => { result := .error (.transport fault), peer := next, followed := [] }
          | most + 1, none =>
              let rest := travel detours userAgent most onward next
              { rest with followed := onward.received userAgent :: rest.followed }

def exchange (request : Request) (userAgent : Option Text) : Run StorageError Response := do
  let session <- get
  match session.peer.obstacle? request.url with
  | some fault => throw (.transport fault)
  | none =>
      let journey := travel session.detours userAgent mostDetours request session.peer
      set { session with
        peer := journey.peer
        received := session.received ++ [request.received userAgent]
        followed := session.followed ++ journey.followed }
      liftM journey.result

namespace Pipeline

/-- A pipeline with the given settings; the name of the client must be one that
can stand in a request. -/
def make (credential : Option Credential) (options : PipelineOptions) :
    Run StorageError Pipeline := do
  if options.userAgent.elim true (fun name => Field.isValue (Text.Utf8.encode name)) then
    logEntry .debug ("Initialized file service pipeline with " ++
      Text.decimal options.timeoutSeconds.toNat ++ "s timeout")
    return { credential, userAgent := options.userAgent }
  else throw (.config .malformedUserAgent)

def makeOrStop (credential : Credential) (options : PipelineOptions) : Run Failure Pipeline :=
  mapFailure (fun error => .stopped ("failed to initialize HTTP client: " ++ error.describe))
    (make (some credential) options)

def describe (pipeline : Pipeline) : Text :=
  "Pipeline \x7b credential: " ++
    pipeline.credential.elim "None".toList (fun c => "Some(" ++ c.describe ++ [')']) ++ ", .. \x7d"

/-- The request as it goes out at a given time: announced, and signed if there
is a credential. -/
def prepare (pipeline : Pipeline) (now : Instant) (request : Request) :
    Except Failure Request :=
  match pipeline.credential with
  | none => .ok request.announced
  | some credential => request.announced.authorize credential now

/-- Signs and sends a request.  The statuses listed are the expected ones. -/
def send (pipeline : Pipeline) (request : Request) (expected : List Nat) :
    Run Failure Response := do
  let session <- get
  let prepared <- pipeline.prepare session.now request
  let line := prepared.method ++ ' ' :: prepared.url.toText
  logEntry .debug line
  let response <- mapFailure Failure.error (exchange prepared pipeline.userAgent)
  let status := Status.toText response.status
  if expected.contains response.status then
    logEntry .debug (line ++ " -> " ++ status)
    return response
  else
    let report := ServiceReport.ofResponse response
    logEntry .warn (line ++ " failed with " ++ status ++ " (" ++ report.code ++
      "), request id " ++ Text.quotedOption report.requestId)
    throw (.error (.service report))

end Pipeline

end FileShare
