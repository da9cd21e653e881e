import FileShare.Unicode.Composition
import FileShare.Unicode.Direction
import FileShare.Unicode.HostMapping
import FileShare.Unicode.Joining
import FileShare.Url.Basic
import FileShare.Url.Punycode

/-!
# Domain names

The ASCII form of a domain name.  The name is mapped and composed, each label
that begins with `xn--` is read and checked, and each label with characters
beyond ASCII is written in that form.  A name of ASCII characters only is just
put into small letters.  Labels may be empty and of any length.
-/

set_option autoImplicit false

namespace FileShare.DomainName

def isForbidden (c : Char) : Bool :=
  c.toNat ≤ 0x20 || c.toNat == 0x7F ||
    ['#', '%', '/', ':', '<', '>', '?', '@', '[', '\\', ']', '^', '|'].contains c

def isAscii (text : Text) : Bool := text.all (·.toNat < 0x80)

def asciiMark : Text := "xn--"

/-- A label as it reads: the ASCII form is resolved, and must not hide a label
that needs none or that is not in normal form. -/
def readLabel? (label : Text) : Option Text :=
  match Text.dropPrefix? asciiMark label with
  | none => some label
  | some form =>
      if 2000 < form.length then none
      else
        match Punycode.decode? form with
        | none => none
        | some text =>
            if isAscii text || !text.all Unicode.isKept || Unicode.compose text != text then none
            else some text

def isProper (label : Text) : Bool :=
  isAscii label ||
    (label.all (fun c => Unicode.isKept c && !isForbidden c) &&
      !(label.head?.elim false Unicode.isMark) && Unicode.joinersPlaced label)

def writeLabel? (label : Text) : Option Text :=
  if isAscii label then some label
  else if 1000 < label.length then none
  else some (asciiMark ++ Punycode.encode label)

def forAll? {α β : Type} (f : α -> Option β) : List α -> Option (List β)
  | [] => some []
  | a :: rest =>
      match f a, forAll? f rest with
      | some b, some bs => some (b :: bs)
      | _, _ => none

def ofMapped? (name : Text) : Option Text :=
  match forAll? readLabel? (Text.pieces '.' name) with
  | none => none
  | some labels =>
      let inDirection :=
        !labels.any Unicode.hasRightToLeft || labels.all Unicode.keepsDirection
      if labels.all isProper && inDirection then
        (forAll? writeLabel? labels).map (List.intercalate ['.'])
      else none

def hasMark (name : Text) : Bool :=
  (Text.pieces '.' name).any fun label => (Text.dropPrefix? asciiMark label).isSome

def toAscii? (name : Text) : Option Text :=
  let form :=
    if isAscii name then
      let small := Text.asciiLower name
      if hasMark small then ofMapped? small else some small
    else
      match Unicode.mapHost? name with
      | none => none
      | some mapped => ofMapped? (Unicode.compose mapped)
  match form with
  | none => none
  | some text => if text.any isForbidden then none else some text

end FileShare.DomainName
