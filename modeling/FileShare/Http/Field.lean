import FileShare.Text.Utf8

/-!
# Header fields

A message has a list of fields, each a name in small letters and a value of
bytes.  Names may repeat; the values of one name are in the order in which they
were added, and the order of different names has no meaning.  A value is read
as text only if all its bytes are visible ASCII, spaces or tabs.
-/

set_option autoImplicit false

namespace FileShare

structure Field where
  name : Text
  value : Bytes
deriving DecidableEq, Repr

namespace Field

def isNameChar (c : Char) : Bool :=
  Text.isAsciiLetter c || Text.isAsciiDigit c ||
    ['!', '#', '$', '%', '&', '\'', '*', '+', '-', '.', '^', '_', Char.ofNat 96, '|',
      '~'].contains c

def name? (text : Text) : Option Text :=
  if text.isEmpty || 65535 < text.length || !text.all isNameChar then none
  else some (Text.asciiLower text)

/-- Whether the byte may stand in a value: no control but the tab. -/
def isValueByte (byte : UInt8) : Bool := (32 ≤ byte.toNat && byte.toNat != 127) || byte.toNat == 9

def isValue (bytes : Bytes) : Bool := bytes.all isValueByte

/-- Whether the byte may stand in a value that is read as text. -/
def isTextByte (byte : UInt8) : Bool :=
  (32 ≤ byte.toNat && byte.toNat ≤ 126) || byte.toNat == 9

def readText? (value : Bytes) : Option Text :=
  if value.all isTextByte then some (value.map fun b => Char.ofNat b.toNat) else none

end Field

abbrev Fields := List Field

namespace Fields

def values (fields : Fields) (name : Text) : List Bytes :=
  (fields.filter (·.name == name)).map (·.value)

def first? (fields : Fields) (name : Text) : Option Bytes := (fields.values name).head?

def text? (fields : Fields) (name : Text) : Option Text :=
  (fields.first? name).bind Field.readText?

/-- The first value of a name, and nothing for one that is absent or no text. -/
def text (fields : Fields) (name : Text) : Text := (fields.text? name).getD []

def add (fields : Fields) (name : Text) (value : Bytes) : Fields := fields ++ [⟨name, value⟩]

def set (fields : Fields) (name : Text) (value : Bytes) : Fields :=
  fields.filter (·.name != name) ++ [⟨name, value⟩]

end Fields

end FileShare
