import FileShare.Text.Basic

/-!
# Punycode

The ASCII form of a label: its ASCII characters, a hyphen, and the other
characters in ascending order, each as the distance from the one before in a
variable-length notation whose thresholds follow a bias.  Every loop has a
measure of its own, so none needs a bound from outside.
-/

set_option autoImplicit false

namespace FileShare.Punycode

def digit (n : Nat) : Char := if n < 26 then Char.ofNat (97 + n) else Char.ofNat (22 + n)

def digitValue? (c : Char) : Option Nat :=
  let n := c.toNat
  if 97 ≤ n ∧ n ≤ 122 then some (n - 97)
  else if 65 ≤ n ∧ n ≤ 90 then some (n - 65)
  else if 48 ≤ n ∧ n ≤ 57 then some (n - 22)
  else none

/-- The threshold of the digit at place `k`: a smaller digit ends the number. -/
def threshold (k bias : Nat) : Nat := if k ≤ bias then 1 else min 26 (k - bias)

theorem one_le_threshold (k bias : Nat) : 1 ≤ threshold k bias := by
  unfold threshold
  split <;> omega

theorem threshold_le (k bias : Nat) : threshold k bias ≤ 26 := by
  unfold threshold
  split <;> omega

/-- Divides by 35 until at most 455 is left, and counts 36 for each division. -/
def damp (delta places : Nat) : Nat × Nat :=
  if 455 < delta then damp (delta / 35) (places + 36) else (delta, places)
termination_by delta
decreasing_by omega

def adapt (delta count : Nat) (first : Bool) : Nat :=
  let scaled := if first then delta / 700 else delta / 2
  let (rest, places) := damp (scaled + scaled / count) 0
  places + 36 * rest / (rest + 38)

def digits (bias k q : Nat) : Text :=
  let t := threshold k bias
  if q < t then [digit q]
  else digit (t + (q - t) % (36 - t)) :: digits bias (k + 36) ((q - t) / (36 - t))
termination_by q
decreasing_by
  have := one_le_threshold k bias
  have := threshold_le k bias
  have : (q - threshold k bias) / (36 - threshold k bias) ≤ q - threshold k bias :=
    Nat.div_le_self _ _
  omega

/-- Writing under way: what is written, the distance since the last character,
the bias, and how many characters are placed. -/
structure Writing where
  written : Text
  delta : Nat
  bias : Nat
  placed : Nat

/-- Looks at one character of the label while those with the number `n` are
placed; `basic` is the number of ASCII characters. -/
def Writing.pass (basic n : Nat) (state : Writing) (c : Char) : Writing :=
  if c.toNat < n then { state with delta := state.delta + 1 }
  else if c.toNat = n then
    { written := state.written ++ digits state.bias 36 state.delta
      delta := 0
      bias := adapt state.delta (state.placed + 1) (state.placed == basic)
      placed := state.placed + 1 }
  else state

/-- Places the characters whose numbers are listed in ascending order; the
numbers below `n` are done. -/
def place (label : Text) (basic : Nat) : Nat -> List Nat -> Writing -> Writing
  | _, [], state => state
  | n, m :: rest, state =>
      let moved := { state with delta := state.delta + (m - n) * (state.placed + 1) }
      let passed := label.foldl (Writing.pass basic m) moved
      place label basic (m + 1) rest { passed with delta := passed.delta + 1 }

def insertNumber (n : Nat) : List Nat -> List Nat
  | [] => [n]
  | m :: rest =>
      if n < m then n :: m :: rest
      else if n = m then m :: rest
      else m :: insertNumber n rest

def encode (label : Text) : Text :=
  let basic := label.filter (·.toNat < 0x80)
  let others := (label.filter (0x80 ≤ ·.toNat)).foldr (fun c l => insertNumber c.toNat l) []
  let mark := if basic.isEmpty then [] else ['-']
  basic ++ mark ++ (place label basic.length 0x80 others ⟨[], 0, 72, basic.length⟩).written

/-- Reads a distance that begins at place `k` with the given weight and is added
to `sum`: the new sum and the rest of the text. -/
def readNumber? (bias k weight sum : Nat) : Text -> Option (Nat × Text)
  | [] => none
  | c :: rest =>
      match digitValue? c with
      | none => none
      | some d =>
          let t := threshold k bias
          if d < t then some (sum + d * weight, rest)
          else readNumber? bias (k + 36) (weight * (36 - t)) (sum + d * weight) rest

theorem length_of_readNumber? (bias : Nat) (text : Text) :
    ∀ (k weight sum : Nat) (result : Nat × Text),
      readNumber? bias k weight sum text = some result -> result.2.length < text.length := by
  induction text with
  | nil => intro k weight sum result read; simp [readNumber?] at read
  | cons c rest ih =>
      intro k weight sum result read
      rw [readNumber?] at read
      split at read
      · simp at read
      · simp only at read
        split at read
        · cases read; simp
        · have := ih _ _ _ _ read
          simp only [List.length_cons]
          omega

def readFrom? (n i bias : Nat) (label text : Text) : Option Text :=
  if text.isEmpty then some label
  else
    match _read : readNumber? bias 36 1 i text with
    | none => none
    | some (sum, rest) =>
        let count := label.length + 1
        let number := n + sum / count
        if number < 0xD800 ∨ (0xDFFF < number ∧ number < 0x110000) then
          readFrom? number (sum % count + 1) (adapt (sum - i) count (i == 0))
            (label.take (sum % count) ++ Char.ofNat number :: label.drop (sum % count)) rest
        else none
termination_by text.length
decreasing_by exact length_of_readNumber? bias text 36 1 i _ _read

/-- The label of an ASCII form; what stands before the last hyphen is taken as it
is, unless the hyphen comes first. -/
def decode? (form : Text) : Option Text :=
  let tail := (form.reverse.takeWhile (· != '-')).reverse
  if tail.length = form.length then readFrom? 0x80 0 72 [] form
  else
    let basic := form.take (form.length - tail.length - 1)
    if basic.isEmpty then readFrom? 0x80 0 72 [] form
    else if basic.all (·.toNat < 0x80) then readFrom? 0x80 0 72 basic tail
    else none

end FileShare.Punycode
