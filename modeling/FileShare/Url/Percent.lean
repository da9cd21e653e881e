import FileShare.Text.Utf8
import FileShare.Text.Decimal

/-!
# Percent encoding

A byte is written as `%` and two hexadecimal digits.  Each part of a URL has its
own set of characters that must be written so; characters outside ASCII always
are, byte by byte.  Reading replaces every complete escape and leaves any other
`%` as it is.
-/

set_option autoImplicit false

namespace FileShare.Percent

def escape (byte : UInt8) : Text :=
  ['%', Text.upperHexDigit (byte.toNat / 16), Text.upperHexDigit (byte.toNat % 16)]

def encodeChar (special : Char -> Bool) (c : Char) : Text :=
  if c.toNat < 0x80 && !special c then [c] else (Text.Utf8.encodeChar c).flatMap escape

def encode (special : Char -> Bool) (text : Text) : Text := text.flatMap (encodeChar special)

def hexByte? (byte : UInt8) : Option Nat := Text.hexDigit? (Char.ofNat byte.toNat)

/-- The bytes with every complete escape replaced. -/
def decode : Bytes -> Bytes
  | mark :: high :: low :: rest =>
      match if mark = 37 then hexByte? high else none, hexByte? low with
      | some h, some l => UInt8.ofNat (h * 16 + l) :: decode rest
      | _, _ => mark :: decode (high :: low :: rest)
  | short => short

def decodeText (text : Text) : Bytes := decode (Text.Utf8.encode text)

def inControlSet (c : Char) : Bool := c.toNat < 0x20 || 0x7E < c.toNat

def inFragmentSet (c : Char) : Bool :=
  inControlSet c || [' ', '"', '<', '>', Char.ofNat 96].contains c

def inQuerySet (c : Char) : Bool := inControlSet c || [' ', '"', '#', '<', '>'].contains c

def inSpecialQuerySet (c : Char) : Bool := inQuerySet c || c == '\''

def inPathSet (c : Char) : Bool :=
  inFragmentSet c || ['#', '?', '{', '}'].contains c

def inUserInfoSet (c : Char) : Bool :=
  inPathSet c || ['/', ':', ';', '=', '@', '[', '\\', ']', '^', '|'].contains c

/-- What is escaped in a single path segment, so that the segment keeps its
bounds and reads back: beyond the path set the slash and the percent sign, and
the backslash where it would count as a slash. -/
def inSegmentSet (backslash : Bool) (c : Char) : Bool :=
  inPathSet c || c == '/' || c == '%' || (backslash && c == '\\')

end FileShare.Percent
