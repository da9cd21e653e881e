import FileShare.Text.Blank
import FileShare.Url.Basic

/-!
# Numeric addresses

A host whose last part is a number is an address of version 4: up to four parts
in decimal, octal or hexadecimal, of which the last one fills the places that
are left.  A host in square brackets is an address of version 6: eight pieces
in hexadecimal, of which one run of zeros may be left out between two colons,
and of which the last two may be written as an address of version 4.
-/

set_option autoImplicit false

namespace FileShare.Address

def valueIn? (base : Nat) (text : Text) : Option Nat :=
  text.foldl
    (fun sum c =>
      match sum, Text.hexDigit? c with
      | some n, some d => if d < base then some (n * base + d) else none
      | _, _ => none)
    (some 0)

def part? (text : Text) : Option Nat :=
  match text with
  | [] => none
  | '0' :: 'x' :: rest | '0' :: 'X' :: rest => valueIn? 16 rest
  | '0' :: c :: rest => valueIn? 8 (c :: rest)
  | other => valueIn? 10 other

def parts (host : Text) : List Text :=
  let all := Text.pieces '.' host
  if all.getLast? = some [] then all.dropLast else all

/-- Whether the host is to be read as an address of version 4. -/
def endsInNumber (host : Text) : Bool :=
  match (parts host).getLast? with
  | none => false
  | some last => (!last.isEmpty && last.all Text.isAsciiDigit) || (part? last).isSome

def ofNumbers? (numbers : List Nat) : Option Nat :=
  match numbers.reverse with
  | [] => none
  | last :: before =>
      let places := 4 - before.length
      if 4 < numbers.length || before.any (255 < ·) || Nat.pow 256 places ≤ last then none
      else some (before.reverse.foldl (fun sum n => sum * 256 + n) 0 * Nat.pow 256 places + last)

def readIpv4 (host : Text) : Except UrlFault Host :=
  match ((parts host).mapM part?).bind ofNumbers? with
  | none => .error .ipv4
  | some address => .ok (.ipv4 address)

def plainByte? (text : Text) : Option Nat :=
  match text with
  | [] => none
  | '0' :: _ :: _ => none
  | _ =>
      if text.length ≤ 3 && text.all Text.isAsciiDigit && Text.digitsValue text < 256 then
        some (Text.digitsValue text)
      else none

/-- The two pieces that an address of version 4 in plain decimal fills. -/
def plainPieces? (text : Text) : Option (List Nat) :=
  match (Text.pieces '.' text).mapM plainByte? with
  | some [a, b, c, d] => some [a * 256 + b, c * 256 + d]
  | _ => none

def piece? (text : Text) : Option Nat :=
  if text.isEmpty || 4 < text.length then none else valueIn? 16 text

/-- The pieces of a text between colons; the last one may hold an address of
version 4. -/
def pieces? : List Text -> Option (List Nat)
  | [] => some []
  | [last] =>
      if last.contains '.' then plainPieces? last else (piece? last).map ([·])
  | text :: rest =>
      match piece? text, pieces? rest with
      | some piece, some more => some (piece :: more)
      | _, _ => none

def splitGap : Text -> Option (Text × Text)
  | ':' :: ':' :: rest => some ([], rest)
  | [] => none
  | c :: rest => (splitGap rest).map fun parts => (c :: parts.1, parts.2)

/-- The pieces of one side of the gap; nothing at all is no piece. -/
def side? (text : Text) : Option (List Nat) :=
  if text.isEmpty then some [] else pieces? (Text.pieces ':' text)

def readIpv6 (text : Text) : Except UrlFault Host :=
  match splitGap text with
  | none =>
      match pieces? (Text.pieces ':' text) with
      | some pieces => if pieces.length = 8 then .ok (.ipv6 pieces) else .error .ipv6
      | none => .error .ipv6
  | some (before, after) =>
      if before.contains '.' then .error .ipv6
      else
        match side? before, side? after with
        | some front, some back =>
            if front.length + back.length ≤ 7 then
              .ok (.ipv6 (front ++ List.replicate (8 - front.length - back.length) 0 ++ back))
            else .error .ipv6
        | _, _ => .error .ipv6

end FileShare.Address
