import FileShare.Proofs.Text.Ascii
import FileShare.Text.Utf8

/-!
# Reading UTF-8 back

Writing a text and reading the bytes gives the text again.  The reader is an
automaton over bytes, so the argument goes character by character: the bytes of
one character take the automaton from its resting state through at most three
pending states, whose bounds admit the byte that was written, back to rest.
-/

set_option autoImplicit false

namespace FileShare.Text.Utf8

theorem start_one {n : Nat} (high : n < 0x80) :
    start (UInt8.ofNat n) = ([Char.ofNat n], none) := by
  have value : (UInt8.ofNat n).toNat = n := UInt8.toNat_ofNat_of_lt' (show _ < 256 by omega)
  simp only [start, value, if_pos high]

theorem start_two {n : Nat} (low : 0x80 ≤ n) (high : n < 0x800) :
    start (UInt8.ofNat (0xC0 + n / 0x40)) = ([], some ⟨1, 0x80, 0xBF, n / 0x40⟩) := by
  have value : (UInt8.ofNat (0xC0 + n / 0x40)).toNat = 0xC0 + n / 0x40 :=
    UInt8.toNat_ofNat_of_lt' (show _ < 256 by omega)
  simp only [start, value]
  rw [if_neg (by omega), if_neg (by omega), if_pos (by omega)]
  simp

/-- The bounds of the second byte admit what is written for the number. -/
theorem start_three {n : Nat} (low : 0x800 ≤ n) (high : n < 0x10000)
    (proper : n < 0xD800 ∨ 0xDFFF < n) :
    ∃ least greatest,
      start (UInt8.ofNat (0xE0 + n / 0x1000)) = ([], some ⟨2, least, greatest, n / 0x1000⟩) ∧
        least ≤ 0x80 + n / 0x40 % 0x40 ∧ 0x80 + n / 0x40 % 0x40 ≤ greatest := by
  have value : (UInt8.ofNat (0xE0 + n / 0x1000)).toNat = 0xE0 + n / 0x1000 :=
    UInt8.toNat_ofNat_of_lt' (show _ < 256 by omega)
  simp only [start, value]
  rw [if_neg (by omega), if_neg (by omega), if_neg (by omega)]
  -- A zero in the first byte must not stand for a shorter form, and with 0xD in it
  -- the surrogates are out of reach.
  by_cases first : n / 0x1000 = 0
  · refine ⟨0xA0, 0xBF, ?_, by omega, by omega⟩
    simp [first]
  · rw [if_neg (by omega)]
    by_cases nearSurrogates : n / 0x1000 = 0xD
    · refine ⟨0x80, 0x9F, ?_, by omega, by omega⟩
      simp [nearSurrogates]
    · rw [if_neg (by omega), if_pos (by omega)]
      refine ⟨0x80, 0xBF, ?_, by omega, by omega⟩
      simp

theorem start_four {n : Nat} (low : 0x10000 ≤ n) (high : n < 0x110000) :
    ∃ least greatest,
      start (UInt8.ofNat (0xF0 + n / 0x40000)) = ([], some ⟨3, least, greatest, n / 0x40000⟩) ∧
        least ≤ 0x80 + n / 0x1000 % 0x40 ∧ 0x80 + n / 0x1000 % 0x40 ≤ greatest := by
  have value : (UInt8.ofNat (0xF0 + n / 0x40000)).toNat = 0xF0 + n / 0x40000 :=
    UInt8.toNat_ofNat_of_lt' (show _ < 256 by omega)
  simp only [start, value]
  rw [if_neg (by omega), if_neg (by omega), if_neg (by omega), if_neg (by omega),
    if_neg (by omega), if_neg (by omega)]
  by_cases first : n / 0x40000 = 0
  · refine ⟨0x90, 0xBF, ?_, by omega, by omega⟩
    simp [first]
  · rw [if_neg (by omega)]
    by_cases last : n / 0x40000 = 4
    · refine ⟨0x80, 0x8F, ?_, by omega, by omega⟩
      simp [last]
    · rw [if_pos (by omega)]
      refine ⟨0x80, 0xBF, ?_, by omega, by omega⟩
      simp

theorem step_middle {missing least greatest bits b : Nat} (more : 1 < missing)
    (low : least ≤ 0x80 + b) (high : 0x80 + b ≤ greatest) (small : b < 0x40) :
    step (some ⟨missing, least, greatest, bits⟩) (UInt8.ofNat (0x80 + b)) =
      ([], some ⟨missing - 1, 0x80, 0xBF, bits * 0x40 + b⟩) := by
  have value : (UInt8.ofNat (0x80 + b)).toNat = 0x80 + b :=
    UInt8.toNat_ofNat_of_lt' (show _ < 256 by omega)
  simp only [step, value]
  rw [if_pos ⟨low, high⟩, if_neg (by omega)]
  simp

theorem step_last {bits b : Nat} (small : b < 0x40) :
    step (some ⟨1, 0x80, 0xBF, bits⟩) (UInt8.ofNat (0x80 + b)) =
      ([Char.ofNat (bits * 0x40 + b)], none) := by
  have value : (UInt8.ofNat (0x80 + b)).toNat = 0x80 + b :=
    UInt8.toNat_ofNat_of_lt' (show _ < 256 by omega)
  simp only [step, value]
  rw [if_pos (by omega), if_pos (by omega)]
  simp

theorem step_none (byte : UInt8) : step none byte = start byte := rfl

theorem decodeFrom_cons (state : Option Pending) (byte : UInt8) (rest : Bytes) :
    decodeFrom state (byte :: rest) =
      (step state byte).1 ++ decodeFrom (step state byte).2 rest := by
  cases state <;> rfl

/-- The bytes of one character are read as that character, whatever follows. -/
theorem decodeFrom_encodeChar (c : Char) (rest : Bytes) :
    decodeFrom none (encodeChar c ++ rest) = c :: decodeFrom none rest := by
  have proper : c.toNat < 0xD800 ∨ (0xDFFF < c.toNat ∧ c.toNat < 0x110000) := c.valid
  have back : Char.ofNat c.toNat = c := Char.ofNat_toNat c
  simp only [encodeChar]
  generalize c.toNat = n at proper back
  by_cases one : n < 0x80
  · simp only [if_pos one, List.cons_append, List.nil_append, decodeFrom_cons, step_none,
      start_one one, back]
  rw [if_neg one]
  by_cases two : n < 0x800
  · have whole : n / 0x40 * 0x40 + n % 0x40 = n := by omega
    simp only [if_pos two, List.cons_append, List.nil_append, decodeFrom_cons, step_none,
      start_two (by omega) two]
    rw [step_last (by omega), whole, back]
    rfl
  rw [if_neg two]
  by_cases three : n < 0x10000
  · obtain ⟨least, greatest, started, low, high⟩ := start_three (by omega) three (by omega)
    have whole : (n / 0x1000 * 0x40 + n / 0x40 % 0x40) * 0x40 + n % 0x40 = n := by omega
    rw [if_pos three]
    simp only [List.cons_append, List.nil_append, decodeFrom_cons, step_none]
    rw [started, step_middle (by omega) low high (by omega),
      step_last (by omega), whole, back]
    rfl
  · obtain ⟨least, greatest, started, low, high⟩ := start_four (by omega) (by omega : n < 0x110000)
    have whole :
        ((n / 0x40000 * 0x40 + n / 0x1000 % 0x40) * 0x40 + n / 0x40 % 0x40) * 0x40 + n % 0x40 =
          n := by
      omega
    rw [if_neg three]
    simp only [List.cons_append, List.nil_append, decodeFrom_cons, step_none]
    rw [started, step_middle (by omega) low high (by omega),
      step_middle (by omega) (by omega) (by omega) (by omega), step_last (by omega), whole, back]
    rfl

theorem decode_encode (text : Text) : decode (encode text) = text := by
  induction text with
  | nil => rfl
  | cons c rest ih =>
      simp only [decode, encode, List.flatMap_cons] at ih ⊢
      rw [decodeFrom_encodeChar, ih]

theorem encode_injective {first second : Text} (same : encode first = encode second) :
    first = second := by
  rw [← decode_encode first, same, decode_encode]

theorem decode?_eq_some_iff {bytes : Bytes} {text : Text} :
    decode? bytes = some text ↔ bytes = encode text := by
  rw [decode?]
  constructor
  · intro read
    split at read
    · rename_i same
      rw [← Option.some.inj read, same]
    · cases read
  · rintro rfl
    rw [decode_encode, if_pos rfl]

@[simp] theorem encode_append (first second : Text) :
    encode (first ++ second) = encode first ++ encode second :=
  List.flatMap_append

/-- An ASCII text is written with one byte for each character. -/
theorem encode_ascii {text : Text} (ascii : ∀ c ∈ text, c.toNat < 0x80) :
    encode text = asciiBytes text := by
  induction text with
  | nil => rfl
  | cons c rest ih =>
      have head : encodeChar c = [UInt8.ofNat c.toNat] := by
        simp only [encodeChar, if_pos (ascii c List.mem_cons_self)]
      have tail := ih fun d member => ascii d (List.mem_cons_of_mem c member)
      simp only [encode, asciiBytes] at tail ⊢
      rw [List.flatMap_cons, head, tail]
      rfl

/-! ## ASCII behind any bytes -/

/-- No sequence under way is continued by an ASCII byte. -/
theorem start_least (byte : UInt8) : ∀ pending ∈ (start byte).2, 0x80 ≤ pending.least := by
  intro pending begun
  simp only [start] at begun
  repeat' split at begun
  all_goals cases begun
  all_goals exact Nat.le_of_ble_eq_true rfl

theorem step_least (state : Option Pending) (byte : UInt8) :
    ∀ pending ∈ (step state byte).2, 0x80 ≤ pending.least := by
  cases state with
  | none => exact start_least byte
  | some before =>
      intro pending begun
      rw [step] at begun
      split at begun
      · split at begun
        · cases begun
        · obtain rfl := Option.some.inj begun
          exact Nat.le_refl _
      · exact start_least byte pending begun

/-- An ASCII text behind any bytes is read as it is. -/
theorem decodeFrom_append_ascii {text : Text} (ascii : ∀ c ∈ text, c.toNat < 0x80)
    (bytes : Bytes) (state : Option Pending) (open_ : ∀ pending ∈ state, 0x80 ≤ pending.least) :
    decodeFrom state (bytes ++ asciiBytes text) = decodeFrom state bytes ++ text := by
  have plain : ∀ {text : Text}, (∀ c ∈ text, c.toNat < 0x80) ->
      decodeFrom none (asciiBytes text) = text := by
    intro text ascii
    rw [← encode_ascii ascii]
    exact decode_encode text
  induction bytes generalizing state with
  | nil =>
      cases state with
      | none => exact plain ascii
      | some pending =>
          cases text with
          | nil => rfl
          | cons c rest =>
              have small := ascii c List.mem_cons_self
              have least := open_ pending rfl
              have value := toNat_asciiByte small
              have ended : ¬ (pending.least ≤ (UInt8.ofNat c.toNat).toNat ∧
                  (UInt8.ofNat c.toNat).toNat ≤ pending.greatest) := by omega
              have tail := plain fun d member => ascii d (List.mem_cons_of_mem c member)
              rw [List.nil_append, asciiBytes, List.map_cons, decodeFrom_cons, step, if_neg ended,
                start_one small]
              rw [asciiBytes] at tail
              simp only [tail, Char.ofNat_toNat]
              rfl
  | cons byte rest ih =>
      rw [List.cons_append, decodeFrom_cons, decodeFrom_cons,
        ih _ (step_least state byte), List.append_assoc]

theorem decode_append_ascii {text : Text} (ascii : ∀ c ∈ text, c.toNat < 0x80) (bytes : Bytes) :
    decode (bytes ++ asciiBytes text) = decode bytes ++ text :=
  decodeFrom_append_ascii ascii bytes none fun _ none => by cases none

end FileShare.Text.Utf8
