import FileShare.Url.Basic

/-!
# Paths

A path is read segment by segment.  A segment is encoded and added at the end;
one that means the same level or the level above is resolved instead, and no
segment that stands for a drive is ever given up.  In the path of a file a drive
letter in first place is brought into its form with a colon.

Tabs and line breaks do not count in a segment, with one effect: the drive letter
of a file that is cut off from what follows by one of them is a segment of its
own, and what follows is taken as it is.
-/

set_option autoImplicit false

namespace FileShare.Url

def isSkipped (c : Char) : Bool := c == '\t' || c == '\n' || c == '\r'

def counted (text : Text) : Text := text.filter (!isSkipped ·)

def isDriveLetter (segment : Text) : Bool :=
  match segment with
  | [c, mark] => Text.isAsciiLetter c && (mark == ':' || mark == '|')
  | _ => false

/-- Whether the segment is a drive letter, or one with more behind a backslash. -/
def standsForDrive (segment : Text) : Bool := isDriveLetter (segment.takeWhile (· != '\\'))

def isDoubleDot (segment : Text) : Bool :=
  [("..": Text), "%2e%2e", ".%2e", "%2e."].contains (Text.asciiLower segment)

def isSingleDot (segment : Text) : Bool :=
  [(".": Text), "%2e"].contains (Text.asciiLower segment)

/-- The segments without the last one, unless it stands for a drive. -/
def parentSegments (segments : List Text) : List Text :=
  match segments.getLast? with
  | some last => if standsForDrive last then segments else segments.dropLast
  | none => []

structure OpenPath where
  segments : List Text
  /-- Whether a drive letter was found in first place. -/
  onDrive : Bool
deriving DecidableEq, Repr

namespace OpenPath

def start : OpenPath := ⟨[], false⟩

/-- The path with one more encoded segment.  Dot segments are resolved; at the end
of a path they leave an empty one. -/
def add (file isLast : Bool) (path : OpenPath) (segment : Text) : OpenPath :=
  let closed (before : List Text) := if isLast then before ++ [[]] else before
  if isDoubleDot segment then { path with segments := closed (parentSegments path.segments) }
  else if isSingleDot segment then { path with segments := closed path.segments }
  else if file && path.segments.isEmpty && isDriveLetter segment then
    { segments := [segment.take 1 ++ [':']], onDrive := true }
  else { path with segments := path.segments ++ [segment] }

/-- A drive letter that characters that do not count cut off from what follows,
and what follows. -/
def cutDrive? (text : Text) : Option (Text × Text) :=
  match text.dropWhile isSkipped with
  | [] => none
  | letter :: afterLetter =>
      match afterLetter.dropWhile isSkipped with
      | ':' :: c :: rest =>
          if Text.isAsciiLetter letter && isSkipped c && !(counted rest).isEmpty then
            some ([letter, ':'], counted rest)
          else none
      | _ => none

def addText (file : Bool) (encode : Text -> Text) (isLast : Bool) (path : OpenPath)
    (text : Text) : OpenPath :=
  match if file && path.segments.isEmpty then cutDrive? text else none with
  | some (drive, rest) => { path with segments := [drive, encode rest] }
  | none => path.add file isLast (encode (counted text))

def addTexts (file : Bool) (encode : Text -> Text) (path : OpenPath) : List Text -> OpenPath
  | [] => path
  | [last] => path.addText file encode true last
  | text :: rest => (path.addText file encode false text).addTexts file encode rest

end OpenPath

/-- The texts of the segments of a path.  In a special URL a backslash is a slash,
and there is at least one segment; a first slash begins the first segment. -/
def segmentTexts (special : Bool) (text : Text) : List Text :=
  let slashed := if special then text.map fun c => if c = '\\' then '/' else c else text
  match slashed.dropWhile isSkipped with
  | '/' :: rest => Text.pieces '/' rest
  | [] => if special then [[]] else []
  | other => Text.pieces '/' other

end FileShare.Url
