import FileShare.Error

/-!
# Metadata and file headers

User-defined pairs and the standard headers that are stored with a file.  They
are sent as fields with prefixes of the service and come back with a file's
properties.
-/

set_option autoImplicit false

namespace FileShare

/-- User-defined pairs in ascending order of their keys; no key repeats. -/
abbrev Metadata := List (Text × Text)

namespace Metadata

def insert (key value : Text) : Metadata -> Metadata
  | [] => [(key, value)]
  | (other, old) :: rest =>
      if key = other then (key, value) :: rest
      else if key < other then (key, value) :: (other, old) :: rest
      else (other, old) :: Metadata.insert key value rest

/-- The metadata of a list of pairs; of equal keys the last one counts. -/
def ofPairs (pairs : List (Text × Text)) : Metadata :=
  pairs.foldl (fun metadata pair => Metadata.insert pair.1 pair.2 metadata) []

def fieldMark : Text := "x-ms-meta-"

def toFields (metadata : Metadata) : List (Text × Bytes) :=
  metadata.map fun pair => (fieldMark ++ pair.1, Text.Utf8.encode pair.2)

/-- The pair that a field stands for; none for other fields and for values that
are no text. -/
def pairOfField? (field : Field) : Option (Text × Text) :=
  match Text.dropPrefix? fieldMark field.name, Field.readText? field.value with
  | some key, some value => some (key, value)
  | _, _ => none

def ofFields (fields : Fields) : Metadata := ofPairs (fields.filterMap pairOfField?)

def describe (metadata : Metadata) : Text :=
  '\x7b' :: List.intercalate ", ".toList
    (metadata.map fun pair => Text.quoted pair.1 ++ ": " ++ Text.quoted pair.2) ++ ['\x7d']

end Metadata

structure FileHeaders where
  contentType : Option Text := none
  contentEncoding : Option Text := none
  contentLanguage : Option Text := none
  cacheControl : Option Text := none
  /-- The digest of the whole file, as raw bytes. -/
  contentMd5 : Option Bytes := none
  contentDisposition : Option Text := none
deriving DecidableEq, Repr

namespace FileHeaders

def toFields (headers : FileHeaders) : List (Text × Bytes) :=
  let textField (name : Text) (value : Option Text) : List (Text × Bytes) :=
    (value.map fun text => (name, Text.Utf8.encode text)).toList
  textField "x-ms-content-type" headers.contentType ++
    textField "x-ms-content-encoding" headers.contentEncoding ++
    textField "x-ms-content-language" headers.contentLanguage ++
    textField "x-ms-cache-control" headers.cacheControl ++
    textField "x-ms-content-disposition" headers.contentDisposition ++
    (headers.contentMd5.map fun md5 => (("x-ms-content-md5" : Text), Base64.encode md5)).toList

def readMd5? (value : Text) : Option Bytes :=
  match Base64.decode (Text.Utf8.encode value) with
  | .ok bytes => some bytes
  | .error _ => none

def ofFields (fields : Fields) : FileHeaders :=
  { contentType := fields.text? "content-type"
    contentEncoding := fields.text? "content-encoding"
    contentLanguage := fields.text? "content-language"
    cacheControl := fields.text? "cache-control"
    contentMd5 := (fields.text? "content-md5").bind readMd5?
    contentDisposition := fields.text? "content-disposition" }

def describeBytes (bytes : Bytes) : Text :=
  '[' :: List.intercalate ", ".toList (bytes.map fun b => Text.decimal b.toNat) ++ [']']

def describe (headers : FileHeaders) : Text :=
  "FileHttpHeaders \x7b content_type: " ++ Text.quotedOption headers.contentType ++
    ", content_encoding: " ++ Text.quotedOption headers.contentEncoding ++
    ", content_language: " ++ Text.quotedOption headers.contentLanguage ++
    ", cache_control: " ++ Text.quotedOption headers.cacheControl ++
    ", content_md5: " ++
      (headers.contentMd5.elim "None".toList fun md5 => "Some(" ++ describeBytes md5 ++ [')']) ++
    ", content_disposition: " ++ Text.quotedOption headers.contentDisposition ++ " \x7d"

end FileHeaders

end FileShare
