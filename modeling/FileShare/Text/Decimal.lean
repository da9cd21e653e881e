import FileShare.Text.Basic

/-!
# Decimal and hexadecimal numerals

Numbers are written without leading zeros, or padded to a fixed width.  A word
of 64 bits is read from ASCII digits with an optional single plus sign; a
number that does not fit is no word.
-/

set_option autoImplicit false

namespace FileShare.Text

def decimal (n : Nat) : Text := Nat.toDigits 10 n

def decimalPadded (width n : Nat) : Text :=
  List.replicate (width - (decimal n).length) '0' ++ decimal n

def hexadecimal (n : Nat) : Text := Nat.toDigits 16 n

def hexDigit? (c : Char) : Option Nat :=
  let n := c.toNat
  if 48 ≤ n ∧ n ≤ 57 then some (n - 48)
  else if 65 ≤ n ∧ n ≤ 70 then some (n - 55)
  else if 97 ≤ n ∧ n ≤ 102 then some (n - 87)
  else none

def upperHexDigit (n : Nat) : Char := if n < 10 then Char.ofNat (48 + n) else Char.ofNat (55 + n)

def digitsValue (text : Text) : Nat := Nat.ofDigitChars 10 text 0

def readWord? (text : Text) : Option UInt64 :=
  let digits :=
    match text with
    | '+' :: rest => rest
    | other => other
  if digits.isEmpty || !digits.all isAsciiDigit then none
  else if digitsValue digits < UInt64.size then some (UInt64.ofNat (digitsValue digits)) else none

end FileShare.Text
