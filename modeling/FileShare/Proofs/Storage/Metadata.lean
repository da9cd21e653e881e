import FileShare.Proofs.Http.Field
import FileShare.Proofs.Storage.Operation
import FileShare.Proofs.Text.Separated

/-!
# Metadata that comes back

Metadata is sent as one field for each pair, with the key in small letters, and read from
all fields with its mark.  It comes back as it was exactly if its keys have no capitals
and its values are readable: a key with capitals comes back without them, and a value
that is not readable does not come back at all.
-/

set_option autoImplicit false

namespace FileShare

namespace Metadata

/-- Each pair has a smaller key than those after it. -/
def Ascending (metadata : Metadata) : Prop :=
  metadata.Pairwise fun first second => first.1 < second.1

instance (metadata : Metadata) : Decidable metadata.Ascending :=
  inferInstanceAs (Decidable (List.Pairwise _ _))

/-! ## Pairs as metadata -/

theorem insert_last {metadata : Metadata} {key : Text} (above : ∀ pair ∈ metadata, pair.1 < key)
    (value : Text) : Metadata.insert key value metadata = metadata ++ [(key, value)] := by
  induction metadata with
  | nil => rfl
  | cons head rest ih =>
      obtain ⟨other, old⟩ := head
      have greater : other < key := above (other, old) List.mem_cons_self
      have different : key ≠ other := fun same => List.lt_irrefl other (same ▸ greater)
      have notSmaller : ¬ key < other := List.lt_asymm greater
      rw [Metadata.insert, if_neg different, if_neg notSmaller,
        ih fun pair member => above pair (List.mem_cons_of_mem _ member), List.cons_append]

theorem ofPairs_of_ascending {metadata : Metadata} (ascending : metadata.Ascending) :
    ofPairs metadata = metadata := by
  -- The pairs that are in already stay in front of those that are still to come.
  have grows : ∀ rest before : Metadata, (before ++ rest).Ascending →
      rest.foldl (fun metadata pair => Metadata.insert pair.1 pair.2 metadata) before =
        before ++ rest := by
    intro rest
    induction rest with
    | nil => exact fun before _ => (List.append_nil before).symm
    | cons pair more ih =>
        intro before ascending
        have above : ∀ other ∈ before, other.1 < pair.1 := fun other member =>
          (List.pairwise_append.mp ascending).2.2 other member pair List.mem_cons_self
        rw [List.foldl_cons, insert_last above, ih, List.append_assoc, List.singleton_append]
        rwa [List.append_assoc, List.singleton_append]
  exact grows metadata [] ascending

theorem mem_insert {key value : Text} {metadata : Metadata} {pair : Text × Text}
    (member : pair ∈ Metadata.insert key value metadata) :
    pair = (key, value) ∨ pair ∈ metadata := by
  induction metadata with
  | nil => exact Or.inl (List.mem_singleton.mp member)
  | cons head rest ih =>
      obtain ⟨other, old⟩ := head
      rw [Metadata.insert] at member
      split at member
      · rcases List.mem_cons.mp member with new | kept
        · exact Or.inl new
        · exact Or.inr (List.mem_cons_of_mem _ kept)
      · split at member
        · exact List.mem_cons.mp member
        · rcases List.mem_cons.mp member with rfl | later
          · exact Or.inr List.mem_cons_self
          · exact (ih later).imp_right (List.mem_cons_of_mem _)

theorem mem_of_mem_ofPairs {pairs : List (Text × Text)} {pair : Text × Text}
    (member : pair ∈ ofPairs pairs) : pair ∈ pairs := by
  have grows : ∀ (rest : List (Text × Text)) (before : Metadata),
      pair ∈ rest.foldl (fun metadata pair => Metadata.insert pair.1 pair.2 metadata) before →
      pair ∈ before ∨ pair ∈ rest := by
    intro rest
    induction rest with
    | nil => exact fun before member => Or.inl member
    | cons first more ih =>
        intro before member
        rcases ih _ member with inserted | later
        · rcases mem_insert inserted with rfl | kept
          · exact Or.inr List.mem_cons_self
          · exact Or.inl kept
        · exact Or.inr (List.mem_cons_of_mem _ later)
  exact (grows pairs [] member).resolve_left List.not_mem_nil

/-! ## Metadata as fields -/

def isField (field : Field) : Bool := fieldMark.isPrefixOf field.name

theorem ofFields_filter (fields : Fields) : ofFields (fields.filter isField) = ofFields fields := by
  have marked : ∀ field, (pairOfField? field).isSome = true → isField field = true := by
    intro field found
    rw [pairOfField?] at found
    split at found
    · rename_i drop _
      exact List.isPrefixOf_iff_prefix.mpr ⟨_, (Text.eq_append_of_dropPrefix? drop).symm⟩
    · cases found
  rw [ofFields, ofFields, List.filterMap_filter]
  congr 2
  funext field
  cases found : pairOfField? field with
  | none => simp
  | some pair => simp [marked field (by rw [found]; rfl)]

/-- Whether the text has no ASCII capital. -/
def IsSmall (text : Text) : Prop := ∀ c ∈ text, ¬ (65 ≤ c.toNat ∧ c.toNat ≤ 90)

instance (text : Text) : Decidable (IsSmall text) :=
  List.decidableBAll _ text

theorem asciiLower_of_isSmall {text : Text} (small : IsSmall text) :
    Text.asciiLower text = text := by
  refine (List.map_congr_left fun c member => ?_).trans (List.map_id text)
  rw [Text.asciiLowerChar, if_neg (small c member), id]

theorem isSmall_asciiLower (text : Text) : IsSmall (Text.asciiLower text) := by
  intro c member
  obtain ⟨d, _, rfl⟩ := List.mem_map.mp member
  rw [Text.toNat_asciiLowerChar]
  split <;> omega

def returned? (pair : Text × Text) : Option (Text × Text) :=
  if Field.IsReadable pair.2 then some (Text.asciiLower pair.1, pair.2) else none

theorem pairOfField?_lowered (pair : Text × Text) :
    pairOfField? (Request.lowered (fieldMark ++ pair.1, Text.Utf8.encode pair.2)) =
      returned? pair := by
  have name : Text.asciiLower (fieldMark ++ pair.1) = fieldMark ++ Text.asciiLower pair.1 := by
    rw [Text.asciiLower, List.map_append]
    rfl
  rw [Request.lowered, name, pairOfField?, Text.dropPrefix?_append, Field.readText?_encode,
    returned?]
  by_cases readable : Field.IsReadable pair.2
  · simp only [if_pos readable]
  · simp only [if_neg readable]

theorem ofFields_toFields (metadata : Metadata) :
    ofFields (metadata.toFields.map Request.lowered) =
      ofPairs (metadata.filterMap returned?) := by
  rw [ofFields, toFields, List.map_map, List.filterMap_map]
  congr 2
  funext pair
  exact pairOfField?_lowered pair

/-- Metadata comes back as it was exactly if its keys have no capitals and its values are
readable. -/
theorem ofFields_toFields_iff {metadata : Metadata} (ascending : metadata.Ascending) :
    ofFields (metadata.toFields.map Request.lowered) = metadata ↔
      ∀ pair ∈ metadata, IsSmall pair.1 ∧ Field.IsReadable pair.2 := by
  rw [ofFields_toFields]
  constructor
  · intro same pair member
    rw [← same] at member
    obtain ⟨origin, _, back⟩ := List.mem_filterMap.mp (mem_of_mem_ofPairs member)
    rw [returned?] at back
    split at back
    · rename_i readable
      rw [← Option.some.inj back]
      exact ⟨isSmall_asciiLower origin.1, readable⟩
    · cases back
  · intro plain
    have whole : metadata.filterMap returned? = metadata := by
      clear ascending
      induction metadata with
      | nil => rfl
      | cons pair rest ih =>
          obtain ⟨small, readable⟩ := plain pair List.mem_cons_self
          have back : returned? pair = some pair := by
            rw [returned?, if_pos readable, asciiLower_of_isSmall small]
          rw [List.filterMap_cons_some back,
            ih fun other member => plain other (List.mem_cons_of_mem _ member)]
    rw [whole, ofPairs_of_ascending ascending]

end Metadata

end FileShare
