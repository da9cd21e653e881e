import FileShare.Text.Basic

/-!
# ASCII texts

Small letters and bytes of ASCII characters, by the numbers of the characters.
-/

set_option autoImplicit false

namespace FileShare.Text

/-- A test of a whole list says that every member passes it. -/
theorem forall_of_all {α : Type} {p : α -> Prop} [DecidablePred p] {l : List α}
    (all : (l.all fun a => decide (p a)) = true) : ∀ a ∈ l, p a :=
  fun a member => of_decide_eq_true (List.all_eq_true.mp all a member)

theorem toNat_ofNat_of_ascii {n : Nat} (ascii : n < 0x80) : (Char.ofNat n).toNat = n := by
  have valid : n.isValidChar := Or.inl (by omega)
  rw [Char.ofNat, dif_pos valid]
  rfl

theorem toNat_asciiLowerChar (c : Char) :
    (asciiLowerChar c).toNat =
      if 65 ≤ c.toNat ∧ c.toNat ≤ 90 then c.toNat + 32 else c.toNat := by
  simp only [asciiLowerChar]
  split
  · exact toNat_ofNat_of_ascii (by omega)
  · rfl

/-- A character that is no letter is the small form of itself only. -/
theorem asciiLowerChar_eq_iff {c d : Char} (noLetter : isAsciiLetter d = false) :
    asciiLowerChar c = d ↔ c = d := by
  simp only [isAsciiLetter, Bool.or_eq_false_iff, Bool.and_eq_false_iff,
    decide_eq_false_iff_not] at noLetter
  rw [← Char.toNat_inj, ← Char.toNat_inj, toNat_asciiLowerChar]
  split <;> omega

theorem asciiLowerChar_eq_small {c d : Char} (small : 97 ≤ d.toNat ∧ d.toNat ≤ 122) :
    asciiLowerChar c = d ↔ c = d ∨ c.toNat + 32 = d.toNat := by
  rw [← Char.toNat_inj, ← Char.toNat_inj, toNat_asciiLowerChar]
  split <;> omega

theorem toNat_asciiByte {c : Char} (ascii : c.toNat < 0x80) :
    (UInt8.ofNat c.toNat).toNat = c.toNat :=
  UInt8.toNat_ofNat_of_lt' (show c.toNat < 256 by omega)

theorem asciiBytes_append (first second : Text) :
    asciiBytes (first ++ second) = asciiBytes first ++ asciiBytes second :=
  List.map_append

theorem byte_not_mem_asciiBytes {mark : Char} (ascii : mark.toNat < 0x80) {text : Text}
    (textAscii : ∀ c ∈ text, c.toNat < 0x80) (free : mark ∉ text) :
    UInt8.ofNat mark.toNat ∉ asciiBytes text := by
  intro member
  obtain ⟨c, place, same⟩ := List.mem_map.mp member
  have number := congrArg UInt8.toNat same
  rw [toNat_asciiByte (textAscii c place), toNat_asciiByte ascii] at number
  exact free (Char.toNat_inj.mp number ▸ place)

theorem asciiLower_asciiLower (text : Text) : asciiLower (asciiLower text) = asciiLower text := by
  rw [asciiLower, asciiLower, List.map_map]
  apply List.map_congr_left
  intro c _
  rw [Function.comp_apply, ← Char.toNat_inj, toNat_asciiLowerChar, if_neg]
  rw [toNat_asciiLowerChar]
  split <;> omega

end FileShare.Text
