import FileShare.Url.Path

/-!
# Child URLs

The URL of a resource is the URL of its parent with one more path segment, and
its name is the last segment read back.  Every character that could end the
segment or be read otherwise is escaped, so the segment reads back as the name.
Two names are not segments: `.` and `..` leave the URL as it is.  Tabs and line
breaks do not count in a URL and are left out of the segment, so a name that
becomes a dot segment without them is resolved like one.
-/

set_option autoImplicit false

namespace FileShare.Url

/-- The segments without an empty one at the end; a path of one slash stays. -/
def withoutEmptyEnd (segments : List Text) : List Text :=
  if 2 ≤ segments.length ∧ segments.getLast? = some [] then segments.dropLast else segments

/-- The segments that a new one is put behind: the single slash of an empty path
already opens the place for it. -/
def openSegments (segments : List Text) : List Text :=
  if segments = [[]] then [] else segments

def childSegments (scheme : Text) (segments : List Text) (name : Text) : List Text :=
  let parent := withoutEmptyEnd segments
  if name = "." ∨ name = ".." then parent
  else
    (OpenPath.addText (scheme == "file")
      (Percent.encode (Percent.inSegmentSet (isSpecialScheme scheme))) true
      ⟨openSegments parent, false⟩ name).segments

/-- The URL of a child.  A bare path has no children, and the URL stays. -/
def child (url : Url) (name : Text) : Url :=
  match url.path with
  | .bare _ => url
  | .segments list => { url with path := .segments (childSegments url.scheme list name) }

/-- The name that the URL gives to its resource: the last segment that is not
empty, read back, with replacements for bytes that are no text. -/
def lastName (url : Url) : Text :=
  match url.segments.reverse.find? (!·.isEmpty) with
  | some segment => Text.Utf8.decode (Percent.decodeText segment)
  | none => []

end FileShare.Url
