import FileShare.Text.Decimal

/-!
# Base64

The standard alphabet with padding.  `encode` writes three bytes as four
symbols; a last group of one or two bytes is filled up with `=`.  `decode`
accepts the written forms and nothing else: every group is complete, padding
stands at the end only, and the bits that the last symbol leaves over are zero.
A refused string is refused for its first fault, whose offset counts bytes.
-/

set_option autoImplicit false

namespace FileShare.Base64

def symbol (n : Nat) : UInt8 :=
  if n < 26 then UInt8.ofNat (65 + n)
  else if n < 52 then UInt8.ofNat (71 + n)
  else if n < 62 then UInt8.ofNat (n - 4)
  else if n = 62 then 43
  else 47

def value? (byte : UInt8) : Option Nat :=
  let b := byte.toNat
  if 65 ≤ b ∧ b ≤ 90 then some (b - 65)
  else if 97 ≤ b ∧ b ≤ 122 then some (b - 71)
  else if 48 ≤ b ∧ b ≤ 57 then some (b + 4)
  else if b = 43 then some 62
  else if b = 47 then some 63
  else none

def pad : UInt8 := 61

def encode : Bytes -> Bytes
  | [] => []
  | [a] => [symbol (a.toNat / 4), symbol (a.toNat % 4 * 16), pad, pad]
  | [a, b] =>
      [symbol (a.toNat / 4), symbol (a.toNat % 4 * 16 + b.toNat / 16),
        symbol (b.toNat % 16 * 4), pad]
  | a :: b :: c :: rest =>
      symbol (a.toNat / 4) :: symbol (a.toNat % 4 * 16 + b.toNat / 16) ::
        symbol (b.toNat % 16 * 4 + c.toNat / 64) :: symbol (c.toNat % 64) :: encode rest

def encodeText (bytes : Bytes) : Text := (encode bytes).map fun b => Char.ofNat b.toNat

inductive Fault where
  | foreign (byte : UInt8) (offset : Nat)
  /-- A last group with too few symbols to hold a byte. -/
  | length (count : Nat)
  /-- A last group that is not filled up to four. -/
  | padding
  /-- A last symbol whose left-over bits are not zero. -/
  | leftover (byte : UInt8) (offset : Nat)
deriving DecidableEq, Repr

def Fault.message : Fault -> Text
  | .foreign byte offset =>
      "Invalid symbol " ++ Text.decimal byte.toNat ++ ", offset " ++ Text.decimal offset ++ "."
  | .length count => "Invalid input length: " ++ Text.decimal count
  | .padding => "Invalid padding"
  | .leftover byte offset =>
      "Invalid last symbol " ++ Text.decimal byte.toNat ++ ", offset " ++
        Text.decimal offset ++ "."

def values (offset : Nat) : Bytes -> Except Fault (List Nat)
  | [] => .ok []
  | byte :: rest =>
      match value? byte with
      | none => .error (.foreign byte offset)
      | some value => (values (offset + 1) rest).map (value :: ·)

def ofGroups : List Nat -> Bytes
  | a :: b :: c :: d :: rest =>
      UInt8.ofNat (a * 4 + b / 16) :: UInt8.ofNat (b % 16 * 16 + c / 4) ::
        UInt8.ofNat (c % 4 * 64 + d) :: ofGroups rest
  | _ => []

/-- The values of the last group, which begins at `start`, and how many padding
symbols follow them.  Padding may begin at the third place, and nothing but
padding follows it. -/
def lastValues (start : Nat) (group : Bytes) : Except Fault (List Nat × Nat) :=
  let symbols := group.takeWhile (· != pad)
  let rest := group.dropWhile (· != pad)
  match values start symbols with
  | .error fault => .error fault
  | .ok found =>
      if rest.isEmpty then .ok (found, 0)
      else if symbols.length < 2 || !rest.all (· == pad) then
        .error (.foreign pad (start + symbols.length))
      else .ok (found, rest.length)

def ofLast (start : Nat) (group : Bytes) (found : List Nat) (paddings : Nat) :
    Except Fault Bytes :=
  let leftover (place : Nat) : Except Fault Bytes :=
    .error (.leftover (group.getD place 0) (start + place))
  match found with
  | [] => .ok []
  | [_] => .error (.length (start + 1))
  | [a, b] =>
      if paddings ≠ 2 then .error .padding
      else if b % 16 ≠ 0 then leftover 1
      else .ok [UInt8.ofNat (a * 4 + b / 16)]
  | [a, b, c] =>
      if paddings ≠ 1 then .error .padding
      else if c % 4 ≠ 0 then leftover 2
      else .ok [UInt8.ofNat (a * 4 + b / 16), UInt8.ofNat (b % 16 * 16 + c / 4)]
  | full => if paddings ≠ 0 then .error .padding else .ok (ofGroups full)

def lastStart (bytes : Bytes) : Nat := (bytes.length - 1) / 4 * 4

/-- The byte string that a written form stands for.  A foreign byte that stands
alone in the last group is reported before anything else. -/
def decode (bytes : Bytes) : Except Fault Bytes :=
  let start := lastStart bytes
  let front := bytes.take start
  let group := bytes.drop start
  let alone :=
    match group with
    | [byte] => if byte ≠ pad ∧ value? byte = none then some byte else none
    | _ => none
  match alone with
  | some byte => .error (.foreign byte start)
  | none => do
      let found <- values 0 front
      let last <- lastValues start group
      let tail <- ofLast start group last.1 last.2
      .ok (ofGroups found ++ tail)

end FileShare.Base64
