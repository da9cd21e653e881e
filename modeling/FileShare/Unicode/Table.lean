import FileShare.Text.Basic

/-!
# Tables of code points

A property of characters is written down as numbers in base 36, separated by
blanks, and read into closed ranges or into runs of a mapping.  Each range is
given by its distance from the end of the one before it and by its length less
one; each run by its distance from the start of the one before it, its number
of characters, the step between them, and the shift to their images.
-/

set_option autoImplicit false

namespace FileShare.Unicode

def digitValue (c : Char) : Nat := if c.toNat < 97 then c.toNat - 48 else c.toNat - 87

/-- The numbers of a text in base 36, separated by blanks. -/
def numbers (text : Text) : List Nat :=
  (Text.pieces ' ' text).filterMap fun piece =>
    if piece.isEmpty then none
    else some (piece.foldl (fun sum c => sum * 36 + digitValue c) 0)

def rangesFrom (place : Nat) : List Nat -> List (Nat × Nat)
  | gap :: extra :: rest =>
      (place + gap, place + gap + extra) :: rangesFrom (place + gap + extra + 1) rest
  | _ => []

structure RangeSet where
  ranges : List (Nat × Nat)

def RangeSet.ofLines (lines : List String) : RangeSet :=
  ⟨rangesFrom 0 (lines.flatMap fun line => numbers line.toList)⟩

def RangeSet.contains (set : RangeSet) (c : Char) : Bool :=
  set.ranges.any fun range => range.1 ≤ c.toNat && c.toNat ≤ range.2

/-- Characters at a fixed step from each other whose images lie at a fixed
shift: an even number means half of it upwards, an odd one half of its
successor downwards. -/
structure Run where
  first : Nat
  count : Nat
  step : Nat
  shift : Nat

def Run.image? (run : Run) (n : Nat) : Option Nat :=
  if run.first ≤ n && n < run.first + run.count * run.step && (n - run.first) % run.step == 0 then
    some (if run.shift % 2 = 0 then n + run.shift / 2 else n - (run.shift + 1) / 2)
  else none

def runsFrom (place : Nat) : List Nat -> List Run
  | gap :: count :: step :: shift :: rest =>
      ⟨place + gap, count, step, shift⟩ :: runsFrom (place + gap) rest
  | _ => []

def runsOfLines (lines : List String) : List Run :=
  runsFrom 0 (lines.flatMap fun line => numbers line.toList)

def image? (runs : List Run) (c : Char) : Option Char :=
  (runs.findSome? fun run => run.image? c.toNat).map Char.ofNat

def groupsFrom : Nat -> List Nat -> List (List Nat)
  | 0, _ => []
  | _ + 1, [] => []
  | fuel + 1, length :: rest => rest.take length :: groupsFrom fuel (rest.drop length)

/-- The lists of numbers that the lines of a table hold. -/
def groupsOfLines (lines : List String) : List (List Nat) :=
  let all := lines.flatMap fun line => numbers line.toList
  groupsFrom all.length all

end FileShare.Unicode
