import FileShare.Text.Basic

/-!
# White space

The 25 characters with the property White_Space, and trimming by them.
-/

set_option autoImplicit false

namespace FileShare.Text

/-- The closed ranges of white space, ascending and apart. -/
def blankRanges : List (Nat × Nat) :=
  [(0x09, 0x0D), (0x20, 0x20), (0x85, 0x85), (0xA0, 0xA0), (0x1680, 0x1680),
    (0x2000, 0x200A), (0x2028, 0x2029), (0x202F, 0x202F), (0x205F, 0x205F),
    (0x3000, 0x3000)]

def isBlank (c : Char) : Bool :=
  blankRanges.any fun range => range.1 ≤ c.toNat && c.toNat ≤ range.2

def trimBy {α : Type} (p : α -> Bool) (l : List α) : List α :=
  ((l.dropWhile p).reverse.dropWhile p).reverse

def trim (text : Text) : Text := trimBy isBlank text

end FileShare.Text
