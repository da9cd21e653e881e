import FileShare.Http.Message
import FileShare.Text.Blank
import FileShare.Unicode.CaseMapping

/-!
# The text that is signed

A request is signed through one text: its method, the standard fields that the
signature covers, every `x-ms-` field, and the resource, which is the account
with the path and the query.  Fields and query names that repeat are grouped,
and the groups are in ascending order, so the text does not depend on the order
in which they were written.
-/

set_option autoImplicit false

namespace FileShare.Canonical

/-- Names with the values given for each, in ascending order of names. -/
abbrev Groups := List (Text × List Text)

def Groups.insert (name value : Text) : Groups -> Groups
  | [] => [(name, [value])]
  | (other, values) :: rest =>
      if name = other then (other, values ++ [value]) :: rest
      else if name < other then (name, [value]) :: (other, values) :: rest
      else (other, values) :: Groups.insert name value rest

def Groups.ofPairs (pairs : List (Text × Text)) : Groups :=
  pairs.foldl (fun groups pair => Groups.insert pair.1 pair.2 groups) []

def fieldMark : Text := "x-ms-"

/-- A value as it is signed: trimmed text, and nothing for a value that is no
text. -/
def signedValue (value : Bytes) : Text := Text.trim ((Field.readText? value).getD [])

def fieldPairs (fields : Fields) : List (Text × Text) :=
  (fields.filter fun field => fieldMark.isPrefixOf field.name).map
    fun field => (field.name, signedValue field.value)

def fieldLine (group : Text × List Text) : Text :=
  group.1 ++ ':' :: List.intercalate [','] group.2 ++ ['\n']

def fieldLines (fields : Fields) : Text :=
  (Groups.ofPairs (fieldPairs fields)).flatMap fieldLine

/-- A group of query values, which are in ascending order, on a line of its
own. -/
def queryLine (group : Text × List Text) : Text :=
  '\n' :: group.1 ++ ':' :: List.intercalate [','] (Text.sorted group.2)

def queryPairs (url : Url) : List (Text × Text) :=
  url.queryPairs.map fun pair => (Unicode.lower pair.1, pair.2)

def queryLines (url : Url) : Text := (Groups.ofPairs (queryPairs url)).flatMap queryLine

def resource (accountName : Text) (url : Url) : Text :=
  '/' :: accountName ++ url.pathText ++ queryLines url

/-- The announced length as it is signed; zero counts as absent. -/
def signedLength (fields : Fields) : Text :=
  let length := fields.text "content-length"
  if length = "0" then [] else length

/-- The lines in front of the `x-ms-` fields.  The date is signed as one of
those, so its own line stays empty. -/
def standardLines (request : Request) : List Text :=
  let text := request.fields.text
  [request.method, text "content-encoding", text "content-language",
    signedLength request.fields, text "content-md5", text "content-type", [],
    text "if-modified-since", text "if-match", text "if-none-match", text "if-unmodified-since",
    text "range"]

def stringToSign (accountName : Text) (request : Request) : Text :=
  (standardLines request).flatMap (· ++ ['\n']) ++ fieldLines request.fields ++
    resource accountName request.url

end FileShare.Canonical
