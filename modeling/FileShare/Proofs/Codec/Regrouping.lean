import Mathlib.Algebra.Group.Nat.Defs
import FileShare.Proofs.Codec.Base64

/-!
# Bits in groups of six

What a written form is, said without the encoder: the bits of the bytes in groups of six, the
last one filled up with zeros, each group as the symbol of its number, and padding up to full
fours.  A byte string has one such form, and it is the one that the encoder writes.
-/

set_option autoImplicit false

namespace FileShare.Base64

/-- The symbols in the order of their numbers. -/
def alphabet : Text := "ABCDEFGHIJKLMNOPQRSTUVWXYZabcdefghijklmnopqrstuvwxyz0123456789+/"

/-- The lowest bits of a number, the highest of them first. -/
def bits : Nat -> Nat -> List Bool
  | 0, _ => []
  | width + 1, n => bits width (n / 2) ++ [n % 2 == 1]

def byteBits (bytes : Bytes) : List Bool := bytes.flatMap fun byte => bits 8 byte.toNat

/-- The text is the standard form of the byte string. -/
def IsStandardForm (text : Text) (bytes : Bytes) : Prop :=
  ∃ (numbers : List Nat) (zeros : Nat) (symbols : Text) (paddings : Nat),
    numbers.flatMap (bits 6) = byteBits bytes ++ List.replicate zeros false ∧ zeros < 6 ∧
      numbers.map (alphabet[·]?) = symbols.map some ∧
      text = symbols ++ List.replicate paddings '=' ∧ paddings < 4 ∧ text.length % 4 = 0

/-! ## Bits of numbers -/

@[simp] theorem length_bits (width n : Nat) : (bits width n).length = width := by
  induction width generalizing n with
  | zero => rfl
  | succ width ih => rw [bits, List.length_append, ih, List.length_singleton]

/-- The bits are those of a quotient by a power of two and those of the remainder. -/
theorem bits_add (high low n : Nat) :
    bits (high + low) n = bits high (n / 2 ^ low) ++ bits low n := by
  induction low generalizing n with
  | zero => rw [Nat.pow_zero, Nat.div_one, bits, List.append_nil, Nat.add_zero]
  | succ low ih =>
      rw [← Nat.add_assoc, bits, ih, Nat.div_div_eq_div_mul, ← Nat.pow_succ', bits,
        List.append_assoc]

theorem bits_mod (width n : Nat) : bits width (n % 2 ^ width) = bits width n := by
  induction width generalizing n with
  | zero => rfl
  | succ width ih =>
      have half : n % 2 ^ (width + 1) / 2 = n / 2 % 2 ^ width := by
        rw [Nat.pow_succ', Nat.mod_mul_right_div_self]
      have lowest : n % 2 ^ (width + 1) % 2 = n % 2 := by
        rw [Nat.pow_succ', Nat.mod_mul_right_mod]
      rw [bits, half, lowest, ih, bits]

theorem bits_pair (high : Nat) {low small : Nat} (fits : small < 2 ^ low) (n : Nat) :
    bits (high + low) (n * 2 ^ low + small) = bits high n ++ bits low small := by
  have quotient : (n * 2 ^ low + small) / 2 ^ low = n := by
    rw [Nat.add_comm, Nat.add_mul_div_right _ _ (Nat.two_pow_pos low), Nat.div_eq_of_lt fits,
      Nat.zero_add]
  have remainder : (n * 2 ^ low + small) % 2 ^ low = small := by
    rw [Nat.add_comm, Nat.add_mul_mod_self_right, Nat.mod_eq_of_lt fits]
  rw [bits_add, quotient, ← bits_mod low, remainder]

theorem bits_zero (width : Nat) : bits width 0 = List.replicate width false := by
  induction width with
  | zero => rfl
  | succ width ih =>
      rw [bits, Nat.zero_div, ih, List.replicate_succ']
      rfl

/-- The lowest bits of one number in front of those of another. -/
theorem bits_straddle (high : Nat) {low small : Nat} (fits : small < 2 ^ low) (n : Nat) :
    bits (high + low) (n % 2 ^ high * 2 ^ low + small) = bits high n ++ bits low small := by
  rw [bits_pair high fits, bits_mod]

theorem bits_filled (high low n : Nat) :
    bits (high + low) (n % 2 ^ high * 2 ^ low) = bits high n ++ List.replicate low false := by
  have straddle := bits_straddle high (Nat.two_pow_pos low) n
  rwa [Nat.add_zero, bits_zero] at straddle

theorem bits_inj {width first second : Nat} (small : first < 2 ^ width)
    (smallToo : second < 2 ^ width) (same : bits width first = bits width second) :
    first = second := by
  induction width generalizing first second with
  | zero =>
      rw [Nat.pow_zero] at small smallToo
      omega
  | succ width ih =>
      rw [bits, bits] at same
      obtain ⟨front, last⟩ := List.append_inj' same rfl
      have halves : first / 2 = second / 2 := by
        rw [Nat.pow_succ] at small smallToo
        exact ih (by omega) (by omega) front
      have lowest : first % 2 = 1 ↔ second % 2 = 1 := by
        have bit := (List.cons.inj last).1
        rw [← beq_iff_eq, bit, beq_iff_eq]
      omega

theorem length_flatMap_bits (width : Nat) (numbers : List Nat) :
    (numbers.flatMap (bits width)).length = width * numbers.length := by
  induction numbers with
  | nil => rfl
  | cons n rest ih =>
      rw [List.flatMap_cons, List.length_append, length_bits, ih, List.length_cons, Nat.mul_succ,
        Nat.add_comm]

theorem flatMap_bits_inj {width : Nat} {first second : List Nat}
    (small : ∀ n ∈ first, n < 2 ^ width) (smallToo : ∀ n ∈ second, n < 2 ^ width)
    (lengths : first.length = second.length)
    (same : first.flatMap (bits width) = second.flatMap (bits width)) : first = second := by
  induction first generalizing second with
  | nil => exact (List.length_eq_zero_iff.mp lengths.symm).symm
  | cons n rest ih =>
      obtain ⟨m, more, rfl⟩ := List.exists_cons_of_length_eq_add_one lengths.symm
      rw [List.forall_mem_cons] at small smallToo
      rw [List.flatMap_cons, List.flatMap_cons] at same
      obtain ⟨group, later⟩ := List.append_inj same (by rw [length_bits, length_bits])
      rw [bits_inj small.1 smallToo.1 group,
        ih small.2 smallToo.2 (Nat.succ_inj.mp lengths) later]

/-! ## One form for each byte string -/

theorem alphabet_symbol {n : Nat} (small : n < 64) :
    alphabet[n]? = some (Char.ofNat (symbol n).toNat) := by
  have table : ∀ n : Fin 64, alphabet[n.val]? = some (Char.ofNat (symbol n).toNat) := by
    decide +kernel
  exact table ⟨n, small⟩

theorem lt_of_alphabet {numbers : List Nat} {symbols : Text}
    (written : numbers.map (alphabet[·]?) = symbols.map some) : ∀ n ∈ numbers, n < 2 ^ 6 := by
  intro n member
  have found : alphabet[n]? ∈ symbols.map some := written ▸ List.mem_map_of_mem member
  obtain ⟨c, -, symbol⟩ := List.mem_map.mp found
  obtain ⟨inside, -⟩ := List.getElem?_eq_some_iff.mp symbol.symm
  exact inside

theorem length_byteBits (bytes : Bytes) : (byteBits bytes).length = 8 * bytes.length := by
  rw [byteBits, ← List.flatMap_map, length_flatMap_bits, List.length_map]

theorem IsStandardForm.unique {bytes : Bytes} {first second : Text}
    (one : IsStandardForm first bytes) (other : IsStandardForm second bytes) : first = second := by
  obtain ⟨numbers, zeros, symbols, paddings, grouped, few, written, rfl, short, full⟩ := one
  obtain ⟨numbers', zeros', symbols', paddings', grouped', few', written', rfl, short', full'⟩ :=
    other
  -- Fewer than six zeros leave one number of groups, and with it one number of zeros.
  have total := congrArg List.length grouped
  have total' := congrArg List.length grouped'
  rw [length_flatMap_bits, List.length_append, length_byteBits, List.length_replicate]
    at total total'
  have groups : numbers.length = numbers'.length := by omega
  have rest : zeros = zeros' := by omega
  have same : numbers = numbers' :=
    flatMap_bits_inj (lt_of_alphabet written) (lt_of_alphabet written') groups
      (by rw [grouped, grouped', rest])
  have texts : symbols = symbols' := by
    rw [same, written'] at written
    exact (List.map_inj_right fun _ _ => Option.some.inj).mp written.symm
  rw [List.length_append, List.length_replicate] at full full'
  rw [texts] at full ⊢
  rw [show paddings = paddings' by omega]

/-! ## The form that is written -/

/-- Three bytes have the bits of four groups. -/
theorem bits_sextets (a b c : UInt8) :
    (sextets [a, b, c]).flatMap (bits 6) =
      bits 8 a.toNat ++ (bits 8 b.toNat ++ bits 8 c.toNat) := by
  have boundB := b.toNat_lt
  have boundC := c.toNat_lt
  have second := bits_straddle 2 (show b.toNat / 16 < 2 ^ 4 by omega) a.toNat
  have third := bits_straddle 4 (show c.toNat / 64 < 2 ^ 2 by omega) b.toNat
  rw [bits_add 6 2 a.toNat, bits_add 4 4 b.toNat, bits_add 2 6 c.toNat, ← bits_mod 6 c.toNat]
  simp only [Nat.reducePow, Nat.reduceAdd] at second third
  simp only [sextets, List.flatMap_cons, List.flatMap_nil, List.append_nil, second, third,
    List.append_assoc, Nat.reducePow]

/-- The numbers of the symbols that are written, and how the last of them is filled up. -/
theorem exists_numbers (bytes : Bytes) :
    ∃ (numbers : List Nat) (zeros paddings : Nat),
      (∀ n ∈ numbers, n < 64) ∧
        numbers.flatMap (bits 6) = byteBits bytes ++ List.replicate zeros false ∧ zeros < 6 ∧
        encode bytes = numbers.map symbol ++ List.replicate paddings pad ∧ paddings < 4 ∧
        (numbers.length + paddings) % 4 = 0 := by
  induction bytes using encode.induct with
  | case1 =>
      exact ⟨[], 0, 0, List.forall_mem_nil _, rfl, by decide, rfl, by decide, rfl⟩
  | case2 a =>
      have boundA := a.toNat_lt
      refine ⟨[a.toNat / 4, a.toNat % 4 * 16], 4, 2, ?_, ?_, by decide, rfl, by decide,
        by simp⟩
      · simp only [List.forall_mem_cons]
        exact ⟨by omega, by omega, List.forall_mem_nil _⟩
      · have filled := bits_filled 2 4 a.toNat
        simp only [Nat.reducePow, Nat.reduceAdd] at filled
        simp only [byteBits, List.flatMap_cons, List.flatMap_nil, List.append_nil, filled,
          bits_add 6 2 a.toNat, List.append_assoc, Nat.reducePow]
  | case3 a b =>
      have boundA := a.toNat_lt
      have boundB := b.toNat_lt
      refine ⟨[a.toNat / 4, a.toNat % 4 * 16 + b.toNat / 16, b.toNat % 16 * 4], 2, 1, ?_, ?_,
        by decide, rfl, by decide, by simp⟩
      · simp only [List.forall_mem_cons]
        exact ⟨by omega, by omega, by omega, List.forall_mem_nil _⟩
      · have second := bits_straddle 2 (show b.toNat / 16 < 2 ^ 4 by omega) a.toNat
        have filled := bits_filled 4 2 b.toNat
        simp only [Nat.reducePow, Nat.reduceAdd] at second filled
        simp only [byteBits, List.flatMap_cons, List.flatMap_nil, List.append_nil, second, filled,
          bits_add 6 2 a.toNat, bits_add 4 4 b.toNat, List.append_assoc, Nat.reducePow]
  | case4 a b c rest ih =>
      obtain ⟨numbers, zeros, paddings, small, grouped, few, written, short, full⟩ := ih
      have whole : Whole [a, b, c] := .group a b c .nil
      refine ⟨sextets [a, b, c] ++ numbers, zeros, paddings, ?_, ?_, few, ?_, short, ?_⟩
      · exact List.forall_mem_append.mpr ⟨sextets_lt whole, small⟩
      · simp only [List.flatMap_append, bits_sextets, grouped, byteBits, List.flatMap_cons,
          List.append_assoc]
      · rw [List.map_append, ← encode_eq_map_symbol whole, List.append_assoc, ← written,
          ← encode_append whole, List.cons_append, List.cons_append, List.singleton_append]
      · rw [List.length_append]
        have fours := length_sextets whole
        omega

theorem isStandardForm_encodeText (bytes : Bytes) : IsStandardForm (encodeText bytes) bytes := by
  obtain ⟨numbers, zeros, paddings, small, grouped, few, written, short, full⟩ :=
    exists_numbers bytes
  refine ⟨numbers, zeros, numbers.map fun n => Char.ofNat (symbol n).toNat, paddings, grouped, few,
    ?_, ?_, short, ?_⟩
  · rw [List.map_map]
    exact List.map_congr_left fun n member => alphabet_symbol (small n member)
  · rw [encodeText, written, List.map_append, List.map_map, List.map_replicate]
    rfl
  · rw [encodeText, written, List.length_map, List.length_append, List.length_map,
      List.length_replicate]
    exact full

theorem isStandardForm_iff {text : Text} {bytes : Bytes} :
    IsStandardForm text bytes ↔ text = encodeText bytes := by
  constructor
  · intro form
    exact form.unique (isStandardForm_encodeText bytes)
  · rintro rfl
    exact isStandardForm_encodeText bytes

end FileShare.Base64
