import FileShare.Proofs.Text.Utf8

/-!
# The order of texts

Texts are compared character by character, and that is how their bytes compare: a character
with a greater number has a greater byte where the two encodings part.  Sorting keeps every
text as often as it occurs, so equal collections have one sorted form.
-/

set_option autoImplicit false

namespace FileShare.Text

/-! ## The order of bytes -/

namespace Utf8

theorem ofNat_cons_lt_iff {a b : Nat} (small : a < 256) (other : b < 256) (first second : Bytes) :
    UInt8.ofNat a :: first < UInt8.ofNat b :: second ↔ a < b ∨ a = b ∧ first < second := by
  have value {n : Nat} (byte : n < 256) : (UInt8.ofNat n).toNat = n :=
    UInt8.toNat_ofNat_of_lt' byte
  rw [List.cons_lt_cons_iff, UInt8.lt_iff_toNat_lt, ← UInt8.toNat_inj, value small, value other]

/-- The bytes of two characters compare like the characters, whatever follows. -/
theorem encodeChar_lt {c d : Char} (below : c < d) (first second : Bytes) :
    encodeChar c ++ first < encodeChar d ++ second := by
  have numbers : c.toNat < d.toNat := below
  have proper : d.toNat < 0xD800 ∨ (0xDFFF < d.toNat ∧ d.toNat < 0x110000) := d.valid
  simp only [encodeChar]
  generalize c.toNat = n at numbers
  generalize d.toNat = m at numbers proper
  -- A longer form begins with a greater byte; in forms of one length the first byte that
  -- differs decides.
  repeat' split
  all_goals
    simp (disch := omega) only [List.cons_append, List.nil_append, ofNat_cons_lt_iff]
    omega

theorem encode_lt {first second : Text} (below : first < second) :
    encode first < encode second := by
  induction first generalizing second with
  | nil =>
      cases second with
      | nil => exact absurd below (List.lt_irrefl _)
      | cons d rest =>
          have filled : encode (d :: rest) ≠ encode [] := fun same => by
            cases encode_injective same
          obtain ⟨byte, more, form⟩ := List.exists_cons_of_ne_nil filled
          rw [form]
          exact List.nil_lt_cons _ _
  | cons c more ih =>
      cases second with
      | nil => exact absurd below (List.not_lt_nil _)
      | cons d rest =>
          simp only [encode, List.flatMap_cons] at ih ⊢
          rcases List.cons_lt_cons_iff.mp below with smaller | ⟨rfl, later⟩
          · exact encodeChar_lt smaller _ _
          · exact List.append_left_lt (ih later)

theorem encode_lt_iff {first second : Text} : encode first < encode second ↔ first < second := by
  constructor
  · intro below
    refine List.not_le.mp fun notBelow => ?_
    rcases List.le_iff_lt_or_eq.mp notBelow with above | same
    · exact List.lt_asymm below (encode_lt above)
    · rw [same] at below
      exact List.lt_irrefl _ below
  · exact encode_lt

end Utf8

/-! ## Sorting -/

theorem insertSorted_cons (text head : Text) (tail : List Text) :
    insertSorted text (head :: tail) =
      if head < text then head :: insertSorted text tail else text :: head :: tail := by
  have unfolded : insertSorted text (head :: tail) =
      if text ≤ head then text :: head :: tail else head :: insertSorted text tail := rfl
  rw [unfolded]
  by_cases above : head < text
  · rw [if_pos above, if_neg (Std.not_le.mpr above)]
  · rw [if_neg above, if_pos (Std.not_lt.mp above)]

theorem insertSorted_perm (text : Text) (texts : List Text) :
    (insertSorted text texts).Perm (text :: texts) := by
  induction texts with
  | nil => exact List.Perm.refl _
  | cons head tail ih =>
      rw [insertSorted_cons]
      split
      · exact (ih.cons head).trans (List.Perm.swap text head tail)
      · exact List.Perm.refl _

theorem sorted_perm (texts : List Text) : (sorted texts).Perm texts := by
  induction texts with
  | nil => exact List.Perm.refl _
  | cons text rest ih => exact (insertSorted_perm text _).trans (ih.cons text)

/-- No text stands behind a greater one. -/
def Ascending (texts : List Text) : Prop := texts.Pairwise fun first second => ¬ second < first

theorem Ascending.insertSorted {texts : List Text} (ascending : Ascending texts) (text : Text) :
    Ascending (insertSorted text texts) := by
  induction texts with
  | nil => exact List.pairwise_singleton _ _
  | cons head tail ih =>
      obtain ⟨above, later⟩ := List.pairwise_cons.mp ascending
      rw [insertSorted_cons]
      split
      · rename_i below
        refine List.pairwise_cons.mpr ⟨fun other member => ?_, ih later⟩
        rcases List.mem_cons.mp ((insertSorted_perm text tail).mem_iff.mp member) with
          rfl | inTail
        · exact List.lt_asymm below
        · exact above other inTail
      · rename_i notAbove
        refine List.pairwise_cons.mpr ⟨fun other member => ?_, ascending⟩
        rcases List.mem_cons.mp member with rfl | inTail
        · exact notAbove
        · have between := above other inTail
          exact Std.not_lt.mpr (Std.le_trans (Std.not_lt.mp notAbove) (Std.not_lt.mp between))

theorem ascending_sorted (texts : List Text) : Ascending (sorted texts) := by
  induction texts with
  | nil => exact List.Pairwise.nil
  | cons text rest ih => exact ih.insertSorted text

/-- The sorted form depends on nothing but how often each text occurs. -/
theorem sorted_congr {first second : List Text} (same : first.Perm second) :
    sorted first = sorted second := by
  have perm := (sorted_perm first).trans (same.trans (sorted_perm second).symm)
  refine List.Perm.eq_of_pairwise (fun one other _ _ below above => ?_)
    (ascending_sorted first) (ascending_sorted second) perm
  exact Std.le_antisymm (Std.not_lt.mp below) (Std.not_lt.mp above)

end FileShare.Text
