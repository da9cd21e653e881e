import FileShare.Text.Decimal

/-!
# Numerals

Different numbers have different numerals of visible figures, a numeral that fits is
padded to the width exactly, and the numeral of a word is read as the word.
-/

set_option autoImplicit false

namespace FileShare.Text

theorem decimal_injective {m n : Nat} (same : decimal m = decimal n) : m = n := by
  have value := congrArg (Nat.ofDigitChars 10 · 0) same
  simp only [decimal, Nat.ofDigitChars_ten_toDigits] at value
  exact value

theorem mem_decimal {n : Nat} {c : Char} (member : c ∈ decimal n) : isAsciiDigit c = true := by
  have digit := Nat.isDigit_of_mem_toDigits (by omega) (Nat.le_refl 10) member
  simp only [Char.isDigit, Bool.and_eq_true, decide_eq_true_eq, UInt32.le_iff_toNat_le] at digit
  simp only [isAsciiDigit, Bool.and_eq_true, decide_eq_true_eq]
  exact digit

theorem digitsValue_decimal (n : Nat) : digitsValue (decimal n) = n :=
  Nat.ofDigitChars_ten_toDigits

theorem decimal_visible (n : Nat) : ∀ c ∈ decimal n, 33 ≤ c.toNat ∧ c.toNat ≤ 126 := by
  intro c member
  have digit := mem_decimal member
  simp only [isAsciiDigit, Bool.and_eq_true, decide_eq_true_eq] at digit
  omega

theorem not_mem_decimal {c : Char} (noDigit : isAsciiDigit c = false) (n : Nat) :
    c ∉ decimal n := by
  intro member
  rw [mem_decimal member] at noDigit
  cases noDigit

theorem mem_decimalPadded {width n : Nat} {c : Char} (member : c ∈ decimalPadded width n) :
    isAsciiDigit c = true := by
  rcases List.mem_append.mp member with zero | digit
  · rw [List.eq_of_mem_replicate zero]
    rfl
  · exact mem_decimal digit

theorem length_decimal_le {width n : Nat} (wide : 0 < width) (fits : n < Nat.pow 10 width) :
    (decimal n).length ≤ width :=
  (Nat.length_toDigits_le_iff (by omega) wide).mpr fits

theorem length_decimalPadded {width n : Nat} (wide : 0 < width) (fits : n < Nat.pow 10 width) :
    (decimalPadded width n).length = width := by
  have short := length_decimal_le wide fits
  rw [decimalPadded, List.length_append, List.length_replicate]
  omega

/-- A word is read without a sign from digits that stand for it. -/
theorem readWord?_of_digits {text : Text} (nonempty : text ≠ [])
    (digits : ∀ c ∈ text, isAsciiDigit c = true) (fits : digitsValue text < UInt64.size) :
    readWord? text = some (UInt64.ofNat (digitsValue text)) := by
  have noSign : ∀ rest, text ≠ '+' :: rest := by
    rintro rest rfl
    exact absurd (digits '+' List.mem_cons_self) (by decide)
  have empty : text.isEmpty = false := List.isEmpty_eq_false_iff.mpr nonempty
  have all : text.all isAsciiDigit = true := List.all_eq_true.mpr digits
  rw [readWord?, if_neg (by simp [empty, all]), if_pos fits]
  exact noSign

theorem readWord?_decimal (word : UInt64) : readWord? (decimal word.toNat) = some word := by
  have value := digitsValue_decimal word.toNat
  have nonempty : decimal word.toNat ≠ [] := Nat.toDigits_ne_nil
  have fits : digitsValue (decimal word.toNat) < UInt64.size := by
    rw [value]
    exact word.toNat_lt
  rw [readWord?_of_digits nonempty (fun _ member => mem_decimal member) fits, value,
    UInt64.ofNat_toNat]

end FileShare.Text
