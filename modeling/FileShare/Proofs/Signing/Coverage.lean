import Mathlib.Data.List.Sort
import FileShare.Proofs.Signing.Authorize

/-!
# What is signed of a single value

Take two requests that differ in the value of one `x-ms-` field.  Their texts to sign are
equal exactly if nothing is signed of either value.  That is so for values of blanks, which
are the same when trimmed, and for every value with a byte that is no text: such values are
sent as they are and signed as if they were empty.
-/

set_option autoImplicit false

namespace FileShare

/-- Nothing is signed of the value: some byte of it is no text, or it is blank. -/
def Field.IsUncovered (value : Bytes) : Prop :=
  (∃ byte ∈ value, isTextByte byte = false) ∨ ∀ byte ∈ value, isFieldBlank byte = true

instance (value : Bytes) : Decidable (Field.IsUncovered value) :=
  inferInstanceAs (Decidable (_ ∨ _))

namespace Canonical

/-! ## The order of fields -/

theorem Groups.Ascending.ext {first second : Groups} (ascending₁ : first.Ascending)
    (ascending₂ : second.Ascending)
    (same : ∀ name, first.lookup name = second.lookup name) : first = second := by
  have mem_iff {groups : Groups} (ascending : groups.Ascending) (group : Text × List Text) :
      group ∈ groups ↔ groups.lookup group.1 = some group.2 := by
    constructor
    · exact ascending.lookup_of_mem
    · intro found
      obtain ⟨front, back, split, -⟩ := List.lookup_eq_some_iff.mp found
      rw [split]
      exact List.mem_append_right front List.mem_cons_self
  have irreflexive : Std.Irrefl fun one other : Text × List Text => one.1 < other.1 :=
    ⟨fun group => List.lt_irrefl group.1⟩
  have antisymmetric : Std.Antisymm fun one other : Text × List Text => one.1 < other.1 :=
    ⟨fun one other below above => absurd above (List.lt_asymm below)⟩
  apply List.Pairwise.eq_of_mem_iff ascending₁ ascending₂
  intro group
  rw [mem_iff ascending₁, mem_iff ascending₂, same]

theorem valuesOf_fieldPairs_unmarked (fields : Fields) {name : Text}
    (unmarked : fieldMark.isPrefixOf name = false) : valuesOf (fieldPairs fields) name = [] := by
  apply List.eq_nil_iff_forall_not_mem.mpr
  intro value member
  obtain ⟨field, kept, same⟩ := List.mem_map.mp (mem_valuesOf.mp member)
  have marked := (List.mem_filter.mp kept).2
  have own : field.name = name := congrArg Prod.fst same
  rw [own, unmarked] at marked
  cases marked

/-- The lines of `x-ms-` fields depend on the values of each name alone. -/
theorem fieldLines_congr {first second : Fields}
    (same : ∀ name, fieldMark.isPrefixOf name = true →
      (first.values name).map signedValue = (second.values name).map signedValue) :
    fieldLines first = fieldLines second := by
  have groups : Groups.ofPairs (fieldPairs first) = Groups.ofPairs (fieldPairs second) := by
    apply (Groups.ofPairs_ascending _).ext (Groups.ofPairs_ascending _)
    intro name
    have values : valuesOf (fieldPairs first) name = valuesOf (fieldPairs second) name := by
      cases marked : fieldMark.isPrefixOf name with
      | true =>
          rw [valuesOf_fieldPairs first marked, valuesOf_fieldPairs second marked,
            same name marked]
      | false =>
          rw [valuesOf_fieldPairs_unmarked first marked,
            valuesOf_fieldPairs_unmarked second marked]
    rw [Groups.lookup_ofPairs, Groups.lookup_ofPairs, values]
  rw [fieldLines, fieldLines, groups]

/-! ## Values -/

theorem isBlank_of_text {byte : UInt8} (text : Field.isTextByte byte = true) :
    Text.isBlank (Char.ofNat byte.toNat) = isFieldBlank byte := by
  simp only [Field.isTextByte, Bool.or_eq_true, Bool.and_eq_true, decide_eq_true_eq,
    beq_iff_eq] at text
  have number : (Char.ofNat byte.toNat).toNat = byte.toNat :=
    Text.toNat_ofNat_of_ascii (by omega)
  rw [Bool.eq_iff_iff]
  simp [Text.isBlank, Text.blankRanges, isFieldBlank, number]
  omega

theorem signedValue_of_text {value : Bytes} (text : ∀ byte ∈ value, Field.isTextByte byte = true) :
    signedValue value =
      (Text.trimBy isFieldBlank value).map fun byte => Char.ofNat byte.toNat := by
  have blank : ∀ byte ∈ value,
      (Text.isBlank ∘ fun byte : UInt8 => Char.ofNat byte.toNat) byte = isFieldBlank byte :=
    fun byte member => isBlank_of_text (text byte member)
  rw [signedValue, Field.readText?, if_pos (List.all_eq_true.mpr text), Option.getD_some,
    Text.trim, Text.trimBy_map, Text.trimBy_congr blank]

theorem signedValue_of_foreign {value : Bytes}
    (foreign : ∃ byte ∈ value, Field.isTextByte byte = false) : signedValue value = [] := by
  obtain ⟨byte, member, noText⟩ := foreign
  have unread : Field.readText? value = none := by
    apply if_neg
    intro all
    rw [List.all_eq_true.mp all byte member] at noText
    cases noText
  rw [signedValue, unread]
  rfl

theorem signedValue_eq_nil_iff (value : Bytes) :
    signedValue value = [] ↔ Field.IsUncovered value := by
  by_cases foreign : ∃ byte ∈ value, Field.isTextByte byte = false
  · exact ⟨fun _ => Or.inl foreign, fun _ => signedValue_of_foreign foreign⟩
  · have text : ∀ byte ∈ value, Field.isTextByte byte = true := by
      intro byte member
      by_contra noText
      exact foreign ⟨byte, member, Bool.eq_false_of_not_eq_true noText⟩
    rw [signedValue_of_text text, List.map_eq_nil_iff, Text.trimBy_eq_nil_iff]
    exact (or_iff_right foreign).symm

theorem eq_of_byteChars {first second : Bytes}
    (text₁ : ∀ byte ∈ first, Field.isTextByte byte = true)
    (text₂ : ∀ byte ∈ second, Field.isTextByte byte = true)
    (same : first.map (fun byte => Char.ofNat byte.toNat) =
      second.map fun byte => Char.ofNat byte.toNat) : first = second := by
  have back {bytes : Bytes} (text : ∀ byte ∈ bytes, Field.isTextByte byte = true) :
      (bytes.map fun byte => Char.ofNat byte.toNat).map (fun c => UInt8.ofNat c.toNat) =
        bytes := by
    rw [List.map_map]
    refine (List.map_congr_left fun byte member => ?_).trans (List.map_id bytes)
    have bounds := text byte member
    simp only [Field.isTextByte, Bool.or_eq_true, Bool.and_eq_true, decide_eq_true_eq,
      beq_iff_eq] at bounds
    rw [Function.comp_apply, Text.toNat_ofNat_of_ascii (by omega), UInt8.ofNat_toNat, id]
  rw [← back text₁, same, back text₂]

/-- Values that differ when trimmed are signed alike only if nothing is signed of them. -/
theorem signedValue_eq_iff {value₁ value₂ : Bytes}
    (apart : Text.trimBy isFieldBlank value₁ ≠ Text.trimBy isFieldBlank value₂) :
    signedValue value₁ = signedValue value₂ ↔
      Field.IsUncovered value₁ ∧ Field.IsUncovered value₂ := by
  rw [← signedValue_eq_nil_iff, ← signedValue_eq_nil_iff]
  constructor
  · intro same
    -- A value of which something is signed is text, and signed as it is when trimmed.
    by_contra signed
    have given₁ : signedValue value₁ ≠ [] := fun none => signed ⟨none, same ▸ none⟩
    have given₂ : signedValue value₂ ≠ [] := same ▸ given₁
    have text {value : Bytes} (given : signedValue value ≠ []) :
        ∀ byte ∈ value, Field.isTextByte byte = true := by
      intro byte member
      by_contra noText
      exact given (signedValue_of_foreign ⟨byte, member, Bool.eq_false_of_not_eq_true noText⟩)
    have inside {value : Bytes} (all : ∀ byte ∈ value, Field.isTextByte byte = true) :
        ∀ byte ∈ Text.trimBy isFieldBlank value, Field.isTextByte byte = true :=
      fun byte member => all byte (Text.mem_of_mem_trimBy member)
    rw [signedValue_of_text (text given₁), signedValue_of_text (text given₂)] at same
    exact apart (eq_of_byteChars (inside (text given₁)) (inside (text given₂)) same)
  · rintro ⟨none₁, none₂⟩
    rw [none₁, none₂]

end Canonical

/-! ## Requests -/

/-- The requests are the same but for the value of one field, which each has once. -/
structure Request.DifferIn (first second : Request) (name : Text) (value₁ value₂ : Bytes) :
    Prop where
  method : first.method = second.method
  url : first.url = second.url
  body : first.body = second.body
  others : ∀ other, other ≠ name → first.fields.values other = second.fields.values other
  value₁ : first.fields.values name = [value₁]
  value₂ : second.fields.values name = [value₂]

namespace Request.DifferIn

variable {first second : Request} {name : Text} {value₁ value₂ : Bytes}

theorem setField (differ : first.DifferIn second name value₁ value₂) {set : Text}
    (apart : set ≠ name) (value : Bytes) :
    (first.setField set value).DifferIn (second.setField set value) name value₁ value₂ := by
  have kept (request : Request) {other : Text} (different : other ≠ set) :
      (request.setField set value).fields.values other = request.fields.values other :=
    Fields.values_set_of_ne _ different _
  constructor
  · exact differ.method
  · exact differ.url
  · exact differ.body
  · intro other different
    by_cases own : other = set
    · rw [own]
      exact (Fields.values_set_self _ _ _).trans (Fields.values_set_self _ _ _).symm
    · rw [kept first own, kept second own, differ.others other different]
  · rw [kept first apart.symm, differ.value₁]
  · rw [kept second apart.symm, differ.value₂]

theorem stamped (differ : first.DifferIn second name value₁ value₂) (noDate : dateField ≠ name)
    (noVersion : versionField ≠ name) (now : Instant) :
    (first.stamped now).DifferIn (second.stamped now) name value₁ value₂ :=
  (differ.setField noDate _).setField noVersion _

end Request.DifferIn

namespace Canonical

section DifferIn

variable {first second : Request} {name : Text} {value₁ value₂ : Bytes}

theorem stringToSign_of_signedValue (accountName : Text)
    (marked : fieldMark.isPrefixOf name = true)
    (differ : first.DifferIn second name value₁ value₂)
    (same : signedValue value₁ = signedValue value₂) :
    stringToSign accountName first = stringToSign accountName second := by
  apply stringToSign_congr
  · exact differ.method
  · intro line member
    apply differ.others
    rintro rfl
    rw [(lineNames_apart line member).1] at marked
    cases marked
  · apply fieldLines_congr
    intro other _
    by_cases own : other = name
    · simp [own, differ.value₁, differ.value₂, same]
    · rw [differ.others other own]
  · rw [differ.url]
  · rw [differ.url]

theorem signedValue_of_stringToSign {accountName : Text} (lawful₁ : first.Lawful)
    (lawful₂ : second.Lawful) (marked : fieldMark.isPrefixOf name = true)
    (differ : first.DifferIn second name value₁ value₂)
    (same : stringToSign accountName first = stringToSign accountName second) :
    signedValue value₁ = signedValue value₂ := by
  obtain ⟨-, lines, -, -⟩ := sections_inj lawful₁ lawful₂ same
  have groups := signedGroup_of_signedLines lines marked
  simpa [signedGroup?, differ.value₁, differ.value₂] using groups

/-- Requests with different values of one field have one text to sign exactly if nothing is
signed of these values. -/
theorem stringToSign_eq_iff (accountName : Text) (lawful₁ : first.Lawful)
    (lawful₂ : second.Lawful) (marked : fieldMark.isPrefixOf name = true)
    (differ : first.DifferIn second name value₁ value₂)
    (apart : Text.trimBy isFieldBlank value₁ ≠ Text.trimBy isFieldBlank value₂) :
    stringToSign accountName first = stringToSign accountName second ↔
      Field.IsUncovered value₁ ∧ Field.IsUncovered value₂ := by
  rw [← signedValue_eq_iff apart]
  constructor
  · exact signedValue_of_stringToSign lawful₁ lawful₂ marked differ
  · exact stringToSign_of_signedValue accountName marked differ

end DifferIn

end Canonical

end FileShare
