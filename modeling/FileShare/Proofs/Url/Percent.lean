import FileShare.Proofs.Text.Ascii
import FileShare.Proofs.Text.Utf8
import FileShare.Url.Percent

/-!
# Percent encoding reads back

What percent encoding writes consists of escapes and of ASCII characters that
the set in use does not contain.  Reading the escapes gives back the bytes of
the text as soon as the percent sign itself is escaped.
-/

set_option autoImplicit false

namespace FileShare.Percent

theorem hexDigit?_upperHexDigit {n : Nat} (small : n < 16) :
    Text.hexDigit? (Text.upperHexDigit n) = some n := by
  have digits : ∀ n : Fin 16, Text.hexDigit? (Text.upperHexDigit n) = some n.val := by decide
  exact digits ⟨n, small⟩

theorem upperHexDigit_ascii {n : Nat} (small : n < 16) :
    (Text.upperHexDigit n).toNat < 0x80 := by
  have digits : ∀ n : Fin 16, (Text.upperHexDigit n).toNat < 0x80 := by decide
  exact digits ⟨n, small⟩

/-- The characters of escapes: the percent sign and the hexadecimal digits. -/
def isEscapeChar (c : Char) : Bool :=
  c == '%' || (Text.hexDigit? c).isSome

theorem isEscapeChar_of_mem_escape {byte : UInt8} {c : Char} (member : c ∈ escape byte) :
    isEscapeChar c = true ∧ c.toNat < 0x80 := by
  have high : byte.toNat / 16 < 16 := by have := byte.toNat_lt; omega
  have low : byte.toNat % 16 < 16 := by omega
  simp only [escape, List.mem_cons, List.not_mem_nil, or_false] at member
  rcases member with rfl | rfl | rfl
  · decide
  · exact ⟨by simp [isEscapeChar, hexDigit?_upperHexDigit high], upperHexDigit_ascii high⟩
  · exact ⟨by simp [isEscapeChar, hexDigit?_upperHexDigit low], upperHexDigit_ascii low⟩

section Encode

variable {special : Char -> Bool}

/-- What is written is a character of the text that needs no escape, or belongs
to an escape. -/
theorem mem_encode {text : Text} {c : Char} (member : c ∈ encode special text) :
    c.toNat < 0x80 ∧ (c ∈ text ∧ special c = false ∨ isEscapeChar c = true) := by
  obtain ⟨d, inText, written⟩ := List.mem_flatMap.mp member
  simp only [encodeChar] at written
  split at written
  · rename_i plain
    simp only [Bool.and_eq_true, decide_eq_true_eq, Bool.not_eq_true'] at plain
    obtain rfl : c = d := List.mem_singleton.mp written
    exact ⟨plain.1, Or.inl ⟨inText, plain.2⟩⟩
  · obtain ⟨byte, _, escaped⟩ := List.mem_flatMap.mp written
    have escapeChar := isEscapeChar_of_mem_escape escaped
    exact ⟨escapeChar.2, Or.inr escapeChar.1⟩

theorem encode_append (first second : Text) :
    encode special (first ++ second) = encode special first ++ encode special second :=
  List.flatMap_append

theorem encode_plain {text : Text} (plain : ∀ c ∈ text, c.toNat < 0x80 ∧ special c = false) :
    encode special text = text := by
  induction text with
  | nil => rfl
  | cons c rest ih =>
      obtain ⟨ascii, kept⟩ := plain c List.mem_cons_self
      have here : encodeChar special c = [c] := by
        rw [encodeChar, kept, if_pos (by simpa using ascii)]
      rw [encode, List.flatMap_cons, here]
      exact congrArg (c :: ·) (ih fun d member => plain d (List.mem_cons_of_mem c member))

theorem encodeChar_ne_nil (c : Char) : encodeChar special c ≠ [] := by
  rw [encodeChar]
  split
  · exact List.cons_ne_nil _ _
  · -- Every character has a first byte, and its escape a percent sign.
    rw [Text.Utf8.encodeChar]
    split
    · exact List.cons_ne_nil _ _
    · split
      · exact List.cons_ne_nil _ _
      · split
        · exact List.cons_ne_nil _ _
        · exact List.cons_ne_nil _ _

theorem encode_eq_nil_iff {text : Text} : encode special text = [] ↔ text = [] := by
  constructor
  · intro empty
    cases text with
    | nil => rfl
    | cons c rest => exact absurd (List.append_eq_nil_iff.mp empty).1 (encodeChar_ne_nil c)
  · rintro rfl
    rfl

theorem encode_ascii (text : Text) : ∀ c ∈ encode special text, c.toNat < 0x80 :=
  fun _ member => (mem_encode member).1

/-- A character of the set that belongs to no escape is never written. -/
theorem not_mem_encode {c : Char} (escaped : special c = true) (foreign : isEscapeChar c = false)
    (text : Text) : c ∉ encode special text := by
  intro member
  rcases (mem_encode member).2 with ⟨_, plain⟩ | escapeChar
  · exact Bool.noConfusion (escaped.symm.trans plain)
  · exact Bool.noConfusion (escapeChar.symm.trans foreign)

end Encode

theorem hexByte?_upperHexDigit {n : Nat} (small : n < 16) :
    hexByte? (UInt8.ofNat (Text.upperHexDigit n).toNat) = some n := by
  have ascii := upperHexDigit_ascii small
  rw [hexByte?, Text.toNat_asciiByte ascii, Char.ofNat_toNat, hexDigit?_upperHexDigit small]

theorem decode_escape (byte : UInt8) (rest : Bytes) :
    decode (Text.asciiBytes (escape byte) ++ rest) = byte :: decode rest := by
  have bound := byte.toNat_lt
  have whole : byte.toNat / 16 * 16 + byte.toNat % 16 = byte.toNat := by omega
  simp only [escape, Text.asciiBytes, List.map_cons, List.map_nil, List.cons_append,
    List.nil_append]
  rw [decode]
  simp only [show UInt8.ofNat '%'.toNat = 37 from rfl, if_true,
    hexByte?_upperHexDigit (show byte.toNat / 16 < 16 by omega),
    hexByte?_upperHexDigit (show byte.toNat % 16 < 16 by omega), whole, UInt8.ofNat_toNat]

theorem decode_escapes (bytes rest : Bytes) :
    decode (Text.asciiBytes (bytes.flatMap escape) ++ rest) = bytes ++ decode rest := by
  induction bytes with
  | nil => rfl
  | cons byte more ih =>
      rw [List.flatMap_cons, Text.asciiBytes_append, List.append_assoc, decode_escape, ih]
      rfl

theorem decode_cons {mark : UInt8} (plain : mark ≠ 37) (rest : Bytes) :
    decode (mark :: rest) = mark :: decode rest := by
  match rest with
  | [] => rfl
  | [_] => rfl
  | _ :: _ :: _ => rw [decode, if_neg plain]

section RoundTrip

variable {special : Char -> Bool}

theorem decode_encodeChar (escapesMark : special '%' = true) (c : Char) (rest : Bytes) :
    decode (Text.asciiBytes (encodeChar special c) ++ rest) =
      Text.Utf8.encodeChar c ++ decode rest := by
  simp only [encodeChar]
  split
  · rename_i plain
    simp only [Bool.and_eq_true, decide_eq_true_eq, Bool.not_eq_true'] at plain
    have noMark : UInt8.ofNat c.toNat ≠ 37 := by
      intro mark
      have number := congrArg UInt8.toNat mark
      rw [Text.toNat_asciiByte plain.1] at number
      have isMark : c = '%' := Char.toNat_inj.mp number
      rw [isMark, escapesMark] at plain
      exact Bool.noConfusion plain.2
    simp only [Text.asciiBytes, List.map_cons, List.map_nil, List.cons_append, List.nil_append,
      decode_cons noMark, Text.Utf8.encodeChar, if_pos plain.1]
  · exact decode_escapes (Text.Utf8.encodeChar c) rest

theorem decode_asciiBytes_encode (escapesMark : special '%' = true) (text : Text) :
    decode (Text.asciiBytes (encode special text)) = Text.Utf8.encode text := by
  induction text with
  | nil => rfl
  | cons c rest ih =>
      simp only [encode, Text.Utf8.encode, List.flatMap_cons] at ih ⊢
      rw [Text.asciiBytes_append, decode_encodeChar escapesMark, ih]

theorem decodeText_encode (escapesMark : special '%' = true) (text : Text) :
    decodeText (encode special text) = Text.Utf8.encode text := by
  rw [decodeText, Text.Utf8.encode_ascii (encode_ascii text),
    decode_asciiBytes_encode escapesMark]

theorem encode_injective (escapesMark : special '%' = true) {first second : Text}
    (same : encode special first = encode special second) : first = second := by
  apply Text.Utf8.encode_injective
  rw [← decodeText_encode escapesMark first, same, decodeText_encode escapesMark]

end RoundTrip

/-! ## Plain bytes behind any others -/

theorem decode_plain {bytes : Bytes} (plain : ∀ byte ∈ bytes, byte ≠ 37) :
    decode bytes = bytes := by
  induction bytes with
  | nil => rfl
  | cons byte rest ih =>
      rw [decode_cons (plain byte List.mem_cons_self),
        ih fun other member => plain other (List.mem_cons_of_mem byte member)]

theorem ne_mark_of_mem_asciiBytes {text : Text} (ascii : ∀ c ∈ text, c.toNat < 0x80)
    (free : '%' ∉ text) : ∀ byte ∈ Text.asciiBytes text, byte ≠ 37 := by
  rintro _ member rfl
  exact Text.byte_not_mem_asciiBytes (by decide : '%'.toNat < 0x80) ascii free member

theorem decodeText_plain {text : Text} (ascii : ∀ c ∈ text, c.toNat < 0x80) (free : '%' ∉ text) :
    decodeText text = Text.Utf8.encode text := by
  rw [decodeText, Text.Utf8.encode_ascii ascii]
  exact decode_plain (ne_mark_of_mem_asciiBytes ascii free)

theorem decode_cons_of_no_escape {mark high low : UInt8}
    (none : ∀ h l, (if mark = 37 then hexByte? high else Option.none) = some h →
      hexByte? low = some l → False) (rest : Bytes) :
    decode (mark :: high :: low :: rest) = mark :: decode (high :: low :: rest) := by
  rw [decode]
  split
  · rename_i first second
    exact (none _ _ first second).elim
  · rfl

/-- Bytes that neither complete an escape nor hold one are read as they are. -/
theorem decode_append_plain {rest : Bytes} (plain : ∀ byte ∈ rest, byte ≠ 37)
    (apart : ∀ byte ∈ rest.head?, hexByte? byte = none) (bytes : Bytes) :
    decode (bytes ++ rest) = decode bytes ++ rest := by
  have one (mark : UInt8) : decode (mark :: rest) = mark :: rest := by
    rcases rest with _ | ⟨next, _ | ⟨after, more⟩⟩
    · rfl
    · rfl
    · rw [decode, apart next rfl, ite_self]
      simp only [decode_plain plain]
  have two (mark high : UInt8) : decode (mark :: high :: rest) = mark :: high :: rest := by
    rcases rest with _ | ⟨next, more⟩
    · rfl
    · have noEscape : ∀ h l, (if mark = 37 then hexByte? high else none) = some h →
          hexByte? next = some l → False := by
        intro h l _ last
        rw [apart next rfl] at last
        cases last
      rw [decode_cons_of_no_escape noEscape, one high]
  induction size : bytes.length using Nat.strongRecOn generalizing bytes with
  | ind n ih =>
      rcases bytes with _ | ⟨mark, _ | ⟨high, _ | ⟨low, more⟩⟩⟩
      · exact decode_plain plain
      · exact one mark
      · exact two mark high
      · subst size
        by_cases escaped : ∃ h l, (if mark = 37 then hexByte? high else none) = some h ∧
            hexByte? low = some l
        · obtain ⟨h, l, escape, last⟩ := escaped
          have shorter : more.length < (mark :: high :: low :: more).length := by
            simp only [List.length_cons]
            omega
          simp only [List.cons_append, decode, escape, last, ih _ shorter more rfl]
        · have noEscape : ∀ h l, (if mark = 37 then hexByte? high else none) = some h →
              hexByte? low = some l → False :=
            fun h l escape last => escaped ⟨h, l, escape, last⟩
          have later := ih _ (Nat.lt_succ_self _) (high :: low :: more) rfl
          rw [List.cons_append, List.cons_append, List.cons_append,
            decode_cons_of_no_escape noEscape, decode_cons_of_no_escape noEscape]
          exact congrArg (mark :: ·) later

end FileShare.Percent
