import FileShare.Text.Basic

/-!
# UTF-8

`encode` writes each character as one to four bytes.  `decode` reads any byte
string: a well-formed sequence gives its character, and each maximal piece that
begins a sequence but does not complete it gives one U+FFFD.  The reader is an
automaton that looks at one byte at a time, so it is a recursion on the bytes.
-/

set_option autoImplicit false

namespace FileShare.Text.Utf8

def encodeChar (c : Char) : Bytes :=
  let n := c.toNat
  if n < 0x80 then [UInt8.ofNat n]
  else if n < 0x800 then [UInt8.ofNat (0xC0 + n / 0x40), UInt8.ofNat (0x80 + n % 0x40)]
  else if n < 0x10000 then
    [UInt8.ofNat (0xE0 + n / 0x1000), UInt8.ofNat (0x80 + n / 0x40 % 0x40),
      UInt8.ofNat (0x80 + n % 0x40)]
  else
    [UInt8.ofNat (0xF0 + n / 0x40000), UInt8.ofNat (0x80 + n / 0x1000 % 0x40),
      UInt8.ofNat (0x80 + n / 0x40 % 0x40), UInt8.ofNat (0x80 + n % 0x40)]

def encode (text : Text) : Bytes := text.flatMap encodeChar

/-- A sequence that has begun: how many bytes are still to come, the bounds of
the next one, and the bits read so far. -/
structure Pending where
  missing : Nat
  least : Nat
  greatest : Nat
  bits : Nat

def replacement : Char := Char.ofNat 0xFFFD

/-- What a byte means at the start of a sequence.  The bounds of the second byte
exclude overlong forms, surrogates and numbers beyond the last code point. -/
def start (byte : UInt8) : Text × Option Pending :=
  let b := byte.toNat
  if b < 0x80 then ([Char.ofNat b], none)
  else if b < 0xC2 then ([replacement], none)
  else if b < 0xE0 then ([], some ⟨1, 0x80, 0xBF, b - 0xC0⟩)
  else if b = 0xE0 then ([], some ⟨2, 0xA0, 0xBF, 0⟩)
  else if b = 0xED then ([], some ⟨2, 0x80, 0x9F, 0xD⟩)
  else if b < 0xF0 then ([], some ⟨2, 0x80, 0xBF, b - 0xE0⟩)
  else if b = 0xF0 then ([], some ⟨3, 0x90, 0xBF, 0⟩)
  else if b < 0xF4 then ([], some ⟨3, 0x80, 0xBF, b - 0xF0⟩)
  else if b = 0xF4 then ([], some ⟨3, 0x80, 0x8F, 4⟩)
  else ([replacement], none)

/-- One byte: what it completes, and the sequence that is then under way.  A
byte that does not continue the sequence ends it and is read as a start. -/
def step (state : Option Pending) (byte : UInt8) : Text × Option Pending :=
  match state with
  | none => start byte
  | some pending =>
      if pending.least ≤ byte.toNat ∧ byte.toNat ≤ pending.greatest then
        let bits := pending.bits * 0x40 + (byte.toNat - 0x80)
        if pending.missing ≤ 1 then ([Char.ofNat bits], none)
        else ([], some ⟨pending.missing - 1, 0x80, 0xBF, bits⟩)
      else
        let next := start byte
        (replacement :: next.1, next.2)

/-- Reads the bytes that follow `state`; a sequence cut off by the end is one
replacement. -/
def decodeFrom : Option Pending -> Bytes -> Text
  | none, [] => []
  | some _, [] => [replacement]
  | state, byte :: rest =>
      let next := step state byte
      next.1 ++ decodeFrom next.2 rest

def decode (bytes : Bytes) : Text := decodeFrom none bytes

/-- The text of a well-formed byte string.  A string is well formed exactly when
writing what was read gives it back. -/
def decode? (bytes : Bytes) : Option Text :=
  let text := decode bytes
  if encode text = bytes then some text else none

end FileShare.Text.Utf8
