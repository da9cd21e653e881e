import FileShare.Codec.Base64
import FileShare.Proofs.Text.Ascii
import FileShare.Proofs.Text.Utf8

/-!
# Written forms in base64

A written form consists of visible ASCII characters and is read back as the bytes that
it was written for.  Reading looks at the last group apart from the groups in front of
it, so the bytes are split there: in front stand whole groups of three bytes, and one to
three bytes are left for the last one.
-/

set_option autoImplicit false

namespace FileShare.Base64

theorem symbol_visible (n : Nat) : 33 ≤ (symbol n).toNat ∧ (symbol n).toNat ≤ 126 := by
  have small {m : Nat} (byte : m < 256) : (UInt8.ofNat m).toNat = m :=
    UInt8.toNat_ofNat_of_lt' byte
  rw [symbol]
  split
  · rw [small (by omega)]
    omega
  · split
    · rw [small (by omega)]
      omega
    · split
      · rw [small (by omega)]
        omega
      · split
        · decide
        · decide

theorem symbol_ne_colon (n : Nat) : symbol n ≠ 58 := by
  have apart {m : Nat} (byte : m < 256) (other : m ≠ 58) : UInt8.ofNat m ≠ 58 := by
    intro same
    have value := congrArg UInt8.toNat same
    rw [UInt8.toNat_ofNat_of_lt' byte] at value
    exact other value
  rw [symbol]
  split
  · exact apart (by omega) (by omega)
  · split
    · exact apart (by omega) (by omega)
    · split
      · exact apart (by omega) (by omega)
      · split
        · decide
        · decide

/-- A written form consists of symbols and padding. -/
theorem mem_encode_cases {bytes : Bytes} {byte : UInt8} (member : byte ∈ encode bytes) :
    (∃ n, byte = symbol n) ∨ byte = pad := by
  induction bytes using encode.induct with
  | case1 => exact absurd member List.not_mem_nil
  | case2 a =>
      simp only [encode, List.mem_cons, List.not_mem_nil, or_false] at member
      rcases member with rfl | rfl | rfl | rfl
      · exact Or.inl ⟨_, rfl⟩
      · exact Or.inl ⟨_, rfl⟩
      · exact Or.inr rfl
      · exact Or.inr rfl
  | case3 a b =>
      simp only [encode, List.mem_cons, List.not_mem_nil, or_false] at member
      rcases member with rfl | rfl | rfl | rfl
      · exact Or.inl ⟨_, rfl⟩
      · exact Or.inl ⟨_, rfl⟩
      · exact Or.inl ⟨_, rfl⟩
      · exact Or.inr rfl
  | case4 a b c rest ih =>
      simp only [encode, List.mem_cons] at member
      rcases member with rfl | rfl | rfl | rfl | later
      · exact Or.inl ⟨_, rfl⟩
      · exact Or.inl ⟨_, rfl⟩
      · exact Or.inl ⟨_, rfl⟩
      · exact Or.inl ⟨_, rfl⟩
      · exact ih later

theorem mem_encode {bytes : Bytes} {byte : UInt8} (member : byte ∈ encode bytes) :
    33 ≤ byte.toNat ∧ byte.toNat ≤ 126 := by
  rcases mem_encode_cases member with ⟨n, rfl⟩ | rfl
  · exact symbol_visible n
  · decide

theorem mem_encodeText {bytes : Bytes} {c : Char} (member : c ∈ encodeText bytes) :
    33 ≤ c.toNat ∧ c.toNat ≤ 126 := by
  obtain ⟨byte, place, rfl⟩ := List.mem_map.mp member
  have visible := mem_encode place
  rw [Text.toNat_ofNat_of_ascii (by omega)]
  exact visible

theorem colon_not_mem_encodeText (bytes : Bytes) : ':' ∉ encodeText bytes := by
  intro member
  obtain ⟨byte, place, same⟩ := List.mem_map.mp member
  have visible := mem_encode place
  have value := congrArg Char.toNat same
  rw [Text.toNat_ofNat_of_ascii (by omega)] at value
  have colon : byte = 58 := UInt8.toNat_inj.mp value
  rcases mem_encode_cases place with ⟨n, rfl⟩ | rfl
  · exact symbol_ne_colon n colon
  · exact absurd colon (by decide)

theorem utf8_encodeText (bytes : Bytes) : Text.Utf8.encode (encodeText bytes) = encode bytes := by
  have ascii : ∀ c ∈ encodeText bytes, c.toNat < 0x80 := by
    intro c member
    have visible := mem_encodeText member
    omega
  rw [Text.Utf8.encode_ascii ascii, Text.asciiBytes, encodeText, List.map_map]
  refine (List.map_congr_left fun byte member => ?_).trans (List.map_id _)
  have visible := mem_encode member
  rw [Function.comp_apply, Text.toNat_ofNat_of_ascii (by omega), UInt8.ofNat_toNat, id]

/-! ## Reading back -/

theorem value?_symbol {n : Nat} (small : n < 64) : value? (symbol n) = some n := by
  have table : ∀ n : Fin 64, value? (symbol n) = some n.val := by decide
  exact table ⟨n, small⟩

theorem symbol_ne_pad {n : Nat} (small : n < 64) : symbol n ≠ pad := by
  have table : ∀ n : Fin 64, symbol n ≠ pad := by decide
  exact table ⟨n, small⟩

theorem values_map_symbol {numbers : List Nat} (small : ∀ n ∈ numbers, n < 64) (offset : Nat) :
    values offset (numbers.map symbol) = .ok numbers := by
  induction numbers generalizing offset with
  | nil => rfl
  | cons n rest ih =>
      rw [List.map_cons, values, value?_symbol (small n List.mem_cons_self)]
      simp only [ih fun m member => small m (List.mem_cons_of_mem n member)]
      rfl

/-- Bytes in groups of three. -/
inductive Whole : Bytes -> Prop where
  | nil : Whole []
  | group (a b c : UInt8) {rest : Bytes} (more : Whole rest) : Whole (a :: b :: c :: rest)

theorem exists_whole_append {bytes : Bytes} (nonempty : bytes ≠ []) :
    ∃ front last, bytes = front ++ last ∧ Whole front ∧ last ≠ [] ∧ last.length ≤ 3 := by
  induction bytes using encode.induct with
  | case1 => exact absurd rfl nonempty
  | case2 a => exact ⟨[], [a], rfl, .nil, nonempty, by simp⟩
  | case3 a b => exact ⟨[], [a, b], rfl, .nil, nonempty, by simp⟩
  | case4 a b c rest ih =>
      by_cases ended : rest = []
      · subst ended
        exact ⟨[], [a, b, c], rfl, .nil, nonempty, by simp⟩
      · obtain ⟨front, last, rfl, whole, some, few⟩ := ih ended
        exact ⟨_, last, rfl, .group a b c whole, some, few⟩

/-- The values of the symbols that groups of three bytes are written with. -/
def sextets : Bytes -> List Nat
  | a :: b :: c :: rest =>
      a.toNat / 4 :: (a.toNat % 4 * 16 + b.toNat / 16) :: (b.toNat % 16 * 4 + c.toNat / 64) ::
        c.toNat % 64 :: sextets rest
  | _ => []

section Groups

variable {bytes : Bytes}

theorem sextets_lt (whole : Whole bytes) : ∀ n ∈ sextets bytes, n < 64 := by
  induction whole with
  | nil => exact List.forall_mem_nil _
  | group a b c more ih =>
      have boundA := a.toNat_lt
      have boundB := b.toNat_lt
      have boundC := c.toNat_lt
      simp only [sextets, List.forall_mem_cons]
      exact ⟨by omega, by omega, by omega, by omega, ih⟩

theorem encode_eq_map_symbol (whole : Whole bytes) :
    encode bytes = (sextets bytes).map symbol := by
  induction whole with
  | nil => rfl
  | group a b c more ih => simp only [encode, sextets, List.map_cons, ih]

theorem length_sextets (whole : Whole bytes) : (sextets bytes).length % 4 = 0 := by
  induction whole with
  | nil => rfl
  | group a b c more ih =>
      simp only [sextets, List.length_cons]
      omega

theorem ofGroups_sextets (whole : Whole bytes) : ofGroups (sextets bytes) = bytes := by
  induction whole with
  | nil => rfl
  | group a b c more ih =>
      have boundB := b.toNat_lt
      have boundC := c.toNat_lt
      have first : a.toNat / 4 * 4 + (a.toNat % 4 * 16 + b.toNat / 16) / 16 = a.toNat := by
        omega
      have second : (a.toNat % 4 * 16 + b.toNat / 16) % 16 * 16 +
          (b.toNat % 16 * 4 + c.toNat / 64) / 4 = b.toNat := by
        omega
      have third : (b.toNat % 16 * 4 + c.toNat / 64) % 4 * 64 + c.toNat % 64 = c.toNat := by
        omega
      simp only [sextets, ofGroups, first, second, third, UInt8.ofNat_toNat, ih]

theorem encode_append (whole : Whole bytes) (rest : Bytes) :
    encode (bytes ++ rest) = encode bytes ++ encode rest := by
  induction whole with
  | nil => rfl
  | group a b c more ih => simp only [List.cons_append, encode, ih]

end Groups

/-- Symbols are told apart from the padding behind them, of which there is none unless two
symbols stand in front of it. -/
theorem lastValues_symbols {numbers : List Nat} (small : ∀ n ∈ numbers, n < 64)
    (paddings : Nat) (room : paddings = 0 ∨ 2 ≤ numbers.length) (start : Nat) :
    lastValues start (numbers.map symbol ++ List.replicate paddings pad) =
      .ok (numbers, paddings) := by
  have symbols : ∀ byte ∈ numbers.map symbol, (byte != pad) = true := by
    intro byte member
    obtain ⟨n, place, rfl⟩ := List.mem_map.mp member
    exact bne_iff_ne.mpr (symbol_ne_pad (small n place))
  have front : (numbers.map symbol ++ List.replicate paddings pad).takeWhile (· != pad) =
      numbers.map symbol := by
    rw [List.takeWhile_append_of_pos symbols, List.takeWhile_replicate]
    simp
  have back : (numbers.map symbol ++ List.replicate paddings pad).dropWhile (· != pad) =
      List.replicate paddings pad := by
    rw [List.dropWhile_append_of_pos symbols, List.dropWhile_replicate]
    simp
  simp only [lastValues, front, back, values_map_symbol small, List.length_map,
    List.length_replicate, List.isEmpty_replicate]
  rcases room with rfl | two
  · rfl
  · have enough : ¬ numbers.length < 2 := by omega
    cases paddings with
    | zero => rfl
    | succ more => simp [enough]

/-- The last group of a written form has four symbols and is read as the one to three
bytes that it was written for. -/
theorem ofLast_encode {bytes : Bytes} (some : bytes ≠ []) (few : bytes.length ≤ 3)
    (start : Nat) :
    (encode bytes).length = 4 ∧
      ∃ numbers paddings, lastValues start (encode bytes) = .ok (numbers, paddings) ∧
        ofLast start (encode bytes) numbers paddings = .ok bytes := by
  match bytes, some, few with
  | [a], _, _ =>
      have boundA := a.toNat_lt
      have small : ∀ n ∈ [a.toNat / 4, a.toNat % 4 * 16], n < 64 := by
        simp only [List.forall_mem_cons]
        exact ⟨by omega, by omega, List.forall_mem_nil _⟩
      have same : a.toNat / 4 * 4 + a.toNat % 4 * 16 / 16 = a.toNat := by omega
      have room : 2 ≤ [a.toNat / 4, a.toNat % 4 * 16].length := Nat.le_refl 2
      refine ⟨rfl, _, _, lastValues_symbols small 2 (Or.inr room) start, ?_⟩
      simp only [ofLast, same, UInt8.ofNat_toNat, Nat.mul_mod_left, ne_eq, not_true_eq_false,
        if_false]
  | [a, b], _, _ =>
      have boundA := a.toNat_lt
      have boundB := b.toNat_lt
      have small : ∀ n ∈ [a.toNat / 4, a.toNat % 4 * 16 + b.toNat / 16, b.toNat % 16 * 4],
          n < 64 := by
        simp only [List.forall_mem_cons]
        exact ⟨by omega, by omega, by omega, List.forall_mem_nil _⟩
      have first : a.toNat / 4 * 4 + (a.toNat % 4 * 16 + b.toNat / 16) / 16 = a.toNat := by
        omega
      have second : (a.toNat % 4 * 16 + b.toNat / 16) % 16 * 16 + b.toNat % 16 * 4 / 4 =
          b.toNat := by
        omega
      have room : 2 ≤ [a.toNat / 4, a.toNat % 4 * 16 + b.toNat / 16,
          b.toNat % 16 * 4].length := Nat.le_succ 2
      refine ⟨rfl, _, _, lastValues_symbols small 1 (Or.inr room) start, ?_⟩
      simp only [ofLast, first, second, UInt8.ofNat_toNat, Nat.mul_mod_left, ne_eq,
        not_true_eq_false, if_false]
  | [a, b, c], _, _ =>
      have whole : Whole [a, b, c] := .group a b c .nil
      have read := lastValues_symbols (sextets_lt whole) 0 (Or.inl rfl) start
      rw [List.replicate_zero, List.append_nil, ← encode_eq_map_symbol whole] at read
      exact ⟨rfl, _, _, read, congrArg Except.ok (ofGroups_sextets whole)⟩

/-- Full groups of symbols are read apart from the last group. -/
theorem decode_append {front group tail : Bytes} {found numbers : List Nat} {paddings : Nat}
    (full : front.length % 4 = 0) (four : group.length = 4)
    (before : values 0 front = .ok found)
    (last : lastValues front.length group = .ok (numbers, paddings))
    (read : ofLast front.length group numbers paddings = .ok tail) :
    decode (front ++ group) = .ok (ofGroups found ++ tail) := by
  have start : lastStart (front ++ group) = front.length := by
    rw [lastStart, List.length_append]
    omega
  match group, four with
  | [p, q, r, s], _ =>
      simp only [decode, start, List.take_left, List.drop_left, before, last, read, bind,
        Except.bind]

theorem decode_encode (bytes : Bytes) : decode (encode bytes) = .ok bytes := by
  by_cases nonempty : bytes = []
  · subst nonempty
    rfl
  · obtain ⟨front, last, rfl, whole, some, few⟩ := exists_whole_append nonempty
    have front_eq := encode_eq_map_symbol whole
    have full : (encode front).length % 4 = 0 := by
      rw [front_eq, List.length_map, length_sextets whole]
    have before : values 0 (encode front) = .ok (sextets front) := by
      rw [front_eq, values_map_symbol (sextets_lt whole)]
    obtain ⟨four, numbers, paddings, split, read⟩ :=
      ofLast_encode some few (encode front).length
    rw [encode_append whole, decode_append full four before split read, ofGroups_sextets whole]

/-! ## Nothing else is read -/

theorem symbol_of_value? {byte : UInt8} {n : Nat} (read : value? byte = some n) :
    byte = symbol n ∧ n < 64 := by
  have table : ∀ b : Fin 256, ∀ n ∈ value? (UInt8.ofNat b), UInt8.ofNat b = symbol n ∧ n < 64 := by
    decide +kernel
  have found := table ⟨byte.toNat, byte.toNat_lt⟩ n
  simp only [UInt8.ofNat_toNat] at found
  exact found read

theorem map_symbol_of_values {offset : Nat} {bytes : Bytes} {numbers : List Nat}
    (read : values offset bytes = .ok numbers) :
    bytes = numbers.map symbol ∧ ∀ n ∈ numbers, n < 64 := by
  induction bytes generalizing offset numbers with
  | nil =>
      cases read
      exact ⟨rfl, List.forall_mem_nil _⟩
  | cons byte rest ih =>
      rw [values] at read
      split at read
      · cases read
      · rename_i n value
        obtain ⟨rfl, small⟩ := symbol_of_value? value
        cases later : values (offset + 1) rest with
        | error fault =>
            rw [later] at read
            cases read
        | ok others =>
            rw [later] at read
            cases read
            obtain ⟨rfl, below⟩ := ih later
            exact ⟨rfl, List.forall_mem_cons.mpr ⟨small, below⟩⟩

/-- Values in full groups are those of whole groups of bytes. -/
theorem encode_ofGroups {numbers : List Nat} (small : ∀ n ∈ numbers, n < 64)
    (full : numbers.length % 4 = 0) :
    Whole (ofGroups numbers) ∧ encode (ofGroups numbers) = numbers.map symbol := by
  induction numbers using ofGroups.induct with
  | case1 a b c d rest ih =>
      simp only [List.forall_mem_cons] at small
      obtain ⟨boundA, boundB, boundC, boundD, below⟩ := small
      simp only [List.length_cons] at full
      obtain ⟨whole, written⟩ := ih below (by omega)
      have byte {n : Nat} (low : n < 256) : (UInt8.ofNat n).toNat = n :=
        UInt8.toNat_ofNat_of_lt' low
      have first : (a * 4 + b / 16) / 4 = a := by omega
      have second : (a * 4 + b / 16) % 4 * 16 + (b % 16 * 16 + c / 4) / 16 = b := by omega
      have third : (b % 16 * 16 + c / 4) % 16 * 4 + (c % 4 * 64 + d) / 64 = c := by omega
      have fourth : (c % 4 * 64 + d) % 64 = d := by omega
      refine ⟨.group _ _ _ whole, ?_⟩
      simp only [ofGroups, encode, List.map_cons, written,
        byte (show a * 4 + b / 16 < 256 by omega),
        byte (show b % 16 * 16 + c / 4 < 256 by omega),
        byte (show c % 4 * 64 + d < 256 by omega), first, second, third, fourth]
  | case2 short noGroup =>
      match short, full, noGroup with
      | [], _, _ => exact ⟨.nil, rfl⟩
      | [_], full, _ => simp at full
      | [_, _], full, _ => simp at full
      | [_, _, _], full, _ => simp at full
      | a :: b :: c :: d :: rest, _, noGroup => exact absurd rfl (noGroup a b c d rest)

theorem symbols_of_lastValues {start : Nat} {group : Bytes} {numbers : List Nat}
    {paddings : Nat} (read : lastValues start group = .ok (numbers, paddings)) :
    group = numbers.map symbol ++ List.replicate paddings pad ∧ (∀ n ∈ numbers, n < 64) ∧
      (paddings = 0 ∨ 2 ≤ numbers.length) := by
  have split := List.takeWhile_append_dropWhile (p := (· != pad)) (l := group)
  simp only [lastValues] at read
  cases found : values start (group.takeWhile (· != pad)) with
  | error fault =>
      rw [found] at read
      cases read
  | ok others =>
      obtain ⟨symbols, small⟩ := map_symbol_of_values found
      rw [found] at read
      simp only at read
      split at read
      · rename_i ended
        cases read
        rw [List.isEmpty_iff.mp ended] at split
        refine ⟨?_, small, Or.inl rfl⟩
        rw [← symbols, List.replicate_zero, split]
      · split at read
        · cases read
        · rename_i regular
          cases read
          simp only [Bool.or_eq_true, decide_eq_true_eq, Bool.not_eq_true',
            not_or, Bool.not_eq_false] at regular
          obtain ⟨enough, padded⟩ := regular
          have paddings := List.eq_replicate_of_mem fun byte member =>
            eq_of_beq (List.all_eq_true.mp padded byte member)
          refine ⟨?_, small, Or.inr ?_⟩
          · rw [← symbols, ← paddings]
            exact split.symm
          · rw [symbols, List.length_map] at enough
            omega

/-- The last group is read only where it is the written form of what it gives. -/
theorem encode_of_ofLast {start : Nat} {group tail : Bytes} {numbers : List Nat}
    {paddings : Nat} (split : group = numbers.map symbol ++ List.replicate paddings pad)
    (small : ∀ n ∈ numbers, n < 64) (room : paddings = 0 ∨ 2 ≤ numbers.length)
    (few : group.length ≤ 4) (read : ofLast start group numbers paddings = .ok tail) :
    encode tail = group := by
  have byte {n : Nat} (low : n < 256) : (UInt8.ofNat n).toNat = n :=
    UInt8.toNat_ofNat_of_lt' low
  subst split
  match numbers, small, room, read with
  | [], _, room, read =>
      obtain rfl : paddings = 0 := by simpa using room
      cases read
      rfl
  | [_], _, _, read => cases read
  | [a, b], small, _, read =>
      simp only [List.forall_mem_cons] at small
      obtain ⟨boundA, boundB, -⟩ := small
      simp only [ofLast] at read
      split at read
      · cases read
      · rename_i two
        split at read
        · cases read
        · rename_i clear
          cases read
          obtain rfl : paddings = 2 := by omega
          have first : (a * 4 + b / 16) / 4 = a := by omega
          have second : (a * 4 + b / 16) % 4 * 16 = b := by omega
          simp only [encode, byte (show a * 4 + b / 16 < 256 by omega), first, second]
          rfl
  | [a, b, c], small, _, read =>
      simp only [List.forall_mem_cons] at small
      obtain ⟨boundA, boundB, boundC, -⟩ := small
      simp only [ofLast] at read
      split at read
      · cases read
      · rename_i one
        split at read
        · cases read
        · rename_i clear
          cases read
          obtain rfl : paddings = 1 := by omega
          have first : (a * 4 + b / 16) / 4 = a := by omega
          have second : (a * 4 + b / 16) % 4 * 16 + (b % 16 * 16 + c / 4) / 16 = b := by omega
          have third : (b % 16 * 16 + c / 4) % 16 * 4 = c := by omega
          simp only [encode, byte (show a * 4 + b / 16 < 256 by omega),
            byte (show b % 16 * 16 + c / 4 < 256 by omega), first, second, third]
          rfl
  | a :: b :: c :: d :: rest, small, _, read =>
      simp only [ofLast] at read
      split at read
      · cases read
      · rename_i noPadding
        cases read
        obtain rfl : paddings = 0 := by omega
        simp only [List.length_append, List.length_map, List.length_cons,
          List.length_replicate] at few
        obtain ⟨-, written⟩ := encode_ofGroups small (by simp only [List.length_cons]; omega)
        rw [written, List.replicate_zero, List.append_nil]

/-- A string that is read is read in both of its parts. -/
theorem parts_of_decode {text bytes : Bytes} (read : decode text = .ok bytes) :
    ∃ found numbers paddings tail,
      values 0 (text.take (lastStart text)) = .ok found ∧
      lastValues (lastStart text) (text.drop (lastStart text)) = .ok (numbers, paddings) ∧
      ofLast (lastStart text) (text.drop (lastStart text)) numbers paddings = .ok tail ∧
      bytes = ofGroups found ++ tail := by
  simp only [decode] at read
  split at read
  · cases read
  · cases before : values 0 (text.take (lastStart text)) with
    | error fault =>
        rw [before] at read
        cases read
    | ok found =>
        cases last : lastValues (lastStart text) (text.drop (lastStart text)) with
        | error fault =>
            rw [before, last] at read
            cases read
        | ok group =>
            cases ended : ofLast (lastStart text) (text.drop (lastStart text)) group.1 group.2 with
            | error fault =>
                simp only [before, last, ended, bind, Except.bind] at read
                cases read
            | ok tail =>
                simp only [before, last, ended, bind, Except.bind] at read
                exact ⟨found, group.1, group.2, tail, rfl, rfl, ended, (Except.ok.inj read).symm⟩

theorem encode_of_decode {text bytes : Bytes} (read : decode text = .ok bytes) :
    encode bytes = text := by
  obtain ⟨found, numbers, paddings, tail, before, last, ended, rfl⟩ := parts_of_decode read
  obtain ⟨front, small⟩ := map_symbol_of_values before
  obtain ⟨split, smallToo, room⟩ := symbols_of_lastValues last
  have few : (text.drop (lastStart text)).length ≤ 4 := by
    rw [List.length_drop, lastStart]
    omega
  have full : found.length % 4 = 0 := by
    have length := congrArg List.length front
    rw [List.length_take, List.length_map, lastStart] at length
    omega
  obtain ⟨whole, written⟩ := encode_ofGroups small full
  rw [encode_append whole, written, encode_of_ofLast split smallToo room few ended, ← front,
    List.take_append_drop]

/-- The texts that are read are exactly the written forms. -/
theorem decode_eq_ok_iff {text bytes : Bytes} :
    decode text = .ok bytes ↔ encode bytes = text := by
  constructor
  · exact encode_of_decode
  · rintro rfl
    exact decode_encode bytes

end FileShare.Base64
