import FileShare.Session

/-!
# Generated names

Names for scratch resources.  A name is a prefix, the caller in a form that the
service accepts, the minute, second and nanosecond of the clock, and a number
that grows with each name of a run.  The number is meant to keep the names of one
run apart; it stands behind the time without a mark between them.
-/

set_option autoImplicit false

namespace FileShare.Naming

/-! How the names of each kind of resource begin. -/

def sharePrefix : Text := "rs"

def directoryPrefix : Text := "rstestdirectory"

def filePrefix : Text := "rstestfile"

def defaultCaller : Text := "foo"

def longestCaller : Nat := 24

/-- The ASCII letters and figures of a text, in small letters, as many as a name
has room for. -/
def sanitize (text : Text) : Text :=
  ((text.filter fun c => Text.isAsciiLetter c || Text.isAsciiDigit c).map
    Text.asciiLowerChar).take longestCaller

/-- What follows the last pair of colons of a path, where pairs may overlap. -/
def lastPart (path : Text) : Text := go path path
where
  /-- `part` is the best answer so far, and the text is still to be searched. -/
  go (part : Text) : Text -> Text
    | ':' :: ':' :: rest => go rest (':' :: rest)
    | _ :: rest => go part rest
    | [] => part

def withoutTestMark (text : Text) : Text := (Text.dropPrefix? "test_".toList text).getD text

/-- The caller that a thread is named after: the last part of its path.  The main
thread, and a thread without a usable name, stand for the default caller. -/
def callerOf (thread : Option Text) : Text :=
  match thread with
  | none => defaultCaller
  | some path =>
      if path = "main" then defaultCaller
      else
        let caller := sanitize (withoutTestMark (lastPart path))
        if caller.isEmpty then defaultCaller else caller

/-- The minute, second and nanosecond of a clock reading, in thirteen figures. -/
def stamp (now : Instant) : Text :=
  Text.decimalPadded 2 now.minute ++ Text.decimalPadded 2 now.second ++
    Text.decimalPadded 9 now.nanoseconds

def compose (start caller : Text) (now : Instant) (sequence : UInt64) : Text :=
  start ++ sanitize caller ++ stamp now ++ Text.decimal sequence.toNat

/-- A name for a given caller; the number moves on, unless the clock shows no
date. -/
def generateFor (start caller : Text) : Run Failure Text := do
  let now <- readClock
  let session <- get
  set { session with sequence := session.sequence + 1 }
  return compose start caller now session.sequence

def generate (start : Text) : Run Failure Text := do
  let session <- get
  generateFor start (callerOf session.thread)

end FileShare.Naming
