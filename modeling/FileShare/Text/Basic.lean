/-!
# Texts and bytes

A text is the list of its characters and a byte string the list of its bytes,
so that every rule about them is a recursion on a list.  Texts are ordered
character by character, which is also the order of their encoded bytes.
-/

set_option autoImplicit false

namespace FileShare

abbrev Text := List Char

abbrev Bytes := List UInt8

instance : Coe String Text := ⟨String.toList⟩

namespace Text

/-- The pieces between the occurrences of `sep`; there is always at least one
piece, and it may be empty. -/
def pieces {α : Type} [DecidableEq α] (sep : α) : List α -> List (List α)
  | [] => [[]]
  | a :: rest =>
      if a = sep then [] :: pieces sep rest
      else
        match pieces sep rest with
        | [] => [[a]]
        | piece :: more => (a :: piece) :: more

/-- What stands before the first `sep`, and what stands after it if there is
one. -/
def cut {α : Type} [DecidableEq α] (sep : α) : List α -> List α × Option (List α)
  | [] => ([], none)
  | a :: rest =>
      if a = sep then ([], some rest)
      else
        let tail := cut sep rest
        (a :: tail.1, tail.2)

def dropPrefix? {α : Type} [DecidableEq α] : List α -> List α -> Option (List α)
  | [], text => some text
  | _ :: _, [] => none
  | a :: start, b :: text => if a = b then dropPrefix? start text else none

def asciiLowerChar (c : Char) : Char :=
  if 65 ≤ c.toNat ∧ c.toNat ≤ 90 then Char.ofNat (c.toNat + 32) else c

def asciiLower (text : Text) : Text := text.map asciiLowerChar

def isAsciiLetter (c : Char) : Bool :=
  (65 ≤ c.toNat && c.toNat ≤ 90) || (97 ≤ c.toNat && c.toNat ≤ 122)

def isAsciiDigit (c : Char) : Bool := 48 ≤ c.toNat && c.toNat ≤ 57

/-- The bytes of an ASCII text.  Characters outside ASCII have no such byte and
are written with their number modulo 256, so this is for constants and for
texts known to be ASCII. -/
def asciiBytes (text : Text) : Bytes := text.map fun c => UInt8.ofNat c.toNat

def insertSorted (text : Text) : List Text -> List Text
  | [] => [text]
  | head :: tail =>
      if text ≤ head then text :: head :: tail else head :: insertSorted text tail

def sorted (texts : List Text) : List Text := texts.foldr insertSorted []

end Text

end FileShare
