import FileShare.Url.Percent

/-!
# Form-encoded queries

A query is a list of pairs, joined by `&`, each with a name and a value joined
by `=`.  A plus sign is read as a space and empty pieces are skipped; bytes that
are no text are read with replacements.
-/

set_option autoImplicit false

namespace FileShare.Form

def decodePart (bytes : Bytes) : Text :=
  Text.Utf8.decode (Percent.decode (bytes.map fun b => if b = 43 then 32 else b))

/-- The pair of a piece between two `&`; a missing value is empty. -/
def pairOf (piece : Bytes) : Text × Text :=
  let parts := Text.cut 61 piece
  (decodePart parts.1, decodePart (parts.2.getD []))

def pairs (query : Text) : List (Text × Text) :=
  ((Text.pieces 38 (Text.Utf8.encode query)).filter (!·.isEmpty)).map pairOf

def isPlain (c : Char) : Bool :=
  Text.isAsciiLetter c || Text.isAsciiDigit c || ['*', '-', '.', '_'].contains c

def encodePart (text : Text) : Text :=
  text.flatMap fun c => if c = ' ' then ['+'] else Percent.encodeChar (!isPlain ·) c

def append (query : Option Text) (name value : Text) : Text :=
  let before :=
    match query with
    | none | some [] => []
    | some text => text ++ ['&']
  before ++ encodePart name ++ '=' :: encodePart value

end FileShare.Form
