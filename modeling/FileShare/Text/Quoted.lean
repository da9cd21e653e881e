import FileShare.Text.Decimal
import FileShare.Unicode.Printable

/-!
# Quoted texts

A text in double quotation marks, as it is shown in descriptions of values.
The quotation mark, the backslash and the usual controls have short escapes;
any other character that is not printable is given by its number in braces.
-/

set_option autoImplicit false

namespace FileShare.Text

def quotedChar (c : Char) : Text :=
  if c = '"' then "\\\""
  else if c = '\\' then "\\\\"
  else if c = '\n' then "\\n"
  else if c = '\r' then "\\r"
  else if c = '\t' then "\\t"
  else if c.toNat = 0 then "\\0"
  else if Unicode.isPrintable c then [c]
  else "\\u\x7b" ++ hexadecimal c.toNat ++ "\x7d"

def quoted (text : Text) : Text := '"' :: text.flatMap quotedChar ++ ['"']

end FileShare.Text
