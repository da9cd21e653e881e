import FileShare.Error

/-!
# Sessions

The surroundings in which operations run: the clock, the variables of the
environment, the thread, the counter of generated names, and the peer that
answers requests.  A session records what was logged and what the peer
received.  A run either ends with a result or fails, and keeps the session in
both cases.
-/

set_option autoImplicit false

namespace FileShare

inductive LogLevel where
  | error
  | warn
  | info
  | debug
  | trace
deriving DecidableEq, Repr

def LogLevel.label : LogLevel -> Text
  | .error => "ERROR"
  | .warn => "WARN"
  | .info => "INFO"
  | .debug => "DEBUG"
  | .trace => "TRACE"

structure LogEntry where
  level : LogLevel
  text : Text
deriving DecidableEq, Repr

/-- The variables of the environment, by name; values are bytes. -/
abbrev Settings := List (Text × Bytes)

def Settings.text? (settings : Settings) (name : Text) : Option Text :=
  (settings.lookup name).bind Text.Utf8.decode?

inductive PeerAction where
  | reply (reply : Reply)
  | hangUp
deriving DecidableEq, Repr

inductive Peer where
  | unreachable
  /-- Requests arrive, over plain connections and over secured ones, and are answered in order;
  once the list is used up, by `last`. -/
  | scripted (actions : List PeerAction) (last : PeerAction)
deriving DecidableEq, Repr

structure Session where
  now : Instant
  settings : Settings
  thread : Option Text
  sequence : UInt64
  peer : Peer
  /-- How the client goes on when a reply sends it elsewhere. -/
  detours : Detours
  log : List LogEntry
  /-- The requests of operations that the peer has received so far, the first one first. -/
  received : List Received
  /-- The requests that it has received besides, because a reply had sent the client elsewhere. -/
  followed : List Received

abbrev Run (ε α : Type) := ExceptT ε (StateM Session) α

def logEntry {ε : Type} (level : LogLevel) (text : Text) : Run ε Unit :=
  modify fun session => { session with log := session.log ++ [⟨level, text⟩] }

def attempt {ε δ α : Type} (run : Run ε α) : Run δ (Except ε α) :=
  fun session => let (result, after) := run session; (.ok result, after)

/-- What the clock shows; the run stops where that is no date. -/
def readClock : Run Failure Instant := do
  match (<- get).now.dated with
  | .ok now => return now
  | .error fault => throw (.stopped fault.message)

def mapFailure {ε δ α : Type} (f : ε -> δ) (run : Run ε α) : Run δ α :=
  fun session =>
    match run session with
    | (.ok a, after) => (.ok a, after)
    | (.error e, after) => (.error (f e), after)

end FileShare
