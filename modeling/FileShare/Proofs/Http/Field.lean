import FileShare.Http.Message
import FileShare.Proofs.Text.Ascii
import FileShare.Proofs.Text.Utf8

/-!
# Names and values of fields

A name of a field holds no colon and no line end, and what is read of a value
holds no line end.  A text is read back from a value if it is ASCII without
controls but the tab, and not at all otherwise.  Setting a field and adding one
change the values of its name only, and a client that puts in what is missing
leaves all other names alone.
-/

set_option autoImplicit false

namespace FileShare

namespace Field

/-- The characters of names are visible ASCII other than the slash and the colon. -/
theorem isNameChar_bounds {c : Char} (allowed : isNameChar c = true) :
    33 ≤ c.toNat ∧ c.toNat ≤ 126 ∧ c.toNat ≠ 47 ∧ c.toNat ≠ 58 := by
  simp only [isNameChar, Text.isAsciiLetter, Text.isAsciiDigit, Bool.or_eq_true,
    Bool.and_eq_true, decide_eq_true_eq, List.contains_iff_mem] at allowed
  rcases allowed with ((capital | small) | digit) | sign
  · omega
  · omega
  · omega
  · exact Text.forall_of_all
      (p := fun c => 33 ≤ c.toNat ∧ c.toNat ≤ 126 ∧ c.toNat ≠ 47 ∧ c.toNat ≠ 58) (by decide) c sign

theorem mem_name {text name : Text} (valid : name? text = some name) {c : Char}
    (member : c ∈ name) : 33 ≤ c.toNat ∧ c.toNat ≤ 126 ∧ c.toNat ≠ 47 ∧ c.toNat ≠ 58 := by
  simp only [name?] at valid
  split at valid
  · exact absurd valid (Option.some_ne_none name).symm
  · rename_i allowed
    simp only [Bool.or_eq_true, Bool.not_eq_true', not_or, Bool.not_eq_false,
      List.all_eq_true] at allowed
    rw [← Option.some.inj valid] at member
    obtain ⟨d, place, rfl⟩ := List.mem_map.mp member
    have bounds := isNameChar_bounds (allowed.2 d place)
    rw [Text.toNat_asciiLowerChar]
    split <;> omega

theorem isNameChar_asciiLowerChar {c : Char} (allowed : isNameChar c = true) :
    isNameChar (Text.asciiLowerChar c) = true := by
  by_cases capital : 65 ≤ c.toNat ∧ c.toNat ≤ 90
  · have small := Text.toNat_asciiLowerChar c
    rw [if_pos capital] at small
    have letter : Text.isAsciiLetter (Text.asciiLowerChar c) = true := by
      simp [Text.isAsciiLetter, small]
      omega
    rw [isNameChar, letter, Bool.true_or, Bool.true_or]
  · rwa [Text.asciiLowerChar, if_neg capital]

theorem name?_name {text name : Text} (valid : name? text = some name) :
    name? name = some name := by
  simp only [name?] at valid
  split at valid
  · cases valid
  · rename_i allowed
    obtain rfl := Option.some.inj valid
    simp only [Bool.or_eq_true, Bool.not_eq_true', not_or, Bool.not_eq_false,
      List.all_eq_true] at allowed
    obtain ⟨⟨full, short⟩, names⟩ := allowed
    have lower : ∀ c ∈ Text.asciiLower text, isNameChar c = true := by
      intro c member
      obtain ⟨d, place, rfl⟩ := List.mem_map.mp member
      exact isNameChar_asciiLowerChar (names d place)
    have same : (Text.asciiLower text).length = text.length := List.length_map _
    rw [name?, Text.asciiLower_asciiLower, if_neg]
    simp only [Bool.or_eq_true, Bool.not_eq_true', not_or, Bool.not_eq_false,
      List.all_eq_true]
    refine ⟨⟨?_, by rwa [same]⟩, lower⟩
    intro empty
    apply full
    simpa [Text.asciiLower] using empty

/-- What is read of a value is visible ASCII, spaces and tabs. -/
theorem mem_readText {value : Bytes} {text : Text} (read : readText? value = some text)
    {c : Char} (member : c ∈ text) : (32 ≤ c.toNat ∧ c.toNat ≤ 126) ∨ c.toNat = 9 := by
  simp only [readText?] at read
  split at read
  · rename_i allowed
    rw [← Option.some.inj read] at member
    obtain ⟨byte, place, same⟩ := List.mem_map.mp member
    have bounds := List.all_eq_true.mp allowed byte place
    simp only [isTextByte, Bool.or_eq_true, Bool.and_eq_true, decide_eq_true_eq,
      beq_iff_eq] at bounds
    rw [← same, Text.toNat_ofNat_of_ascii (by omega)]
    exact bounds
  · exact absurd read (Option.some_ne_none text).symm

/-- Whether the bytes of the text are visible ASCII, spaces and tabs. -/
def IsReadable (text : Text) : Prop := ∀ byte ∈ Text.Utf8.encode text, isTextByte byte = true

instance (text : Text) : Decidable (IsReadable text) :=
  List.decidableBAll _ (Text.Utf8.encode text)

theorem isReadable_of_printable {text : Text}
    (printable : ∀ c ∈ text, 32 ≤ c.toNat ∧ c.toNat ≤ 126) : IsReadable text := by
  have ascii : ∀ c ∈ text, c.toNat < 0x80 := by
    intro c place
    have bounds := printable c place
    omega
  intro byte member
  rw [Text.Utf8.encode_ascii ascii] at member
  obtain ⟨c, place, rfl⟩ := List.mem_map.mp member
  have bounds := printable c place
  simp only [isTextByte, Text.toNat_asciiByte (ascii c place), Bool.or_eq_true,
    Bool.and_eq_true, decide_eq_true_eq]
  omega

/-- What can be read can be sent. -/
theorem isValue_of_printable {text : Text}
    (printable : ∀ c ∈ text, 32 ≤ c.toNat ∧ c.toNat ≤ 126) :
    isValue (Text.Utf8.encode text) = true := by
  refine List.all_eq_true.mpr fun byte member => ?_
  have readable := isReadable_of_printable printable byte member
  simp only [isTextByte, Bool.or_eq_true, Bool.and_eq_true, decide_eq_true_eq,
    beq_iff_eq] at readable
  simp only [isValueByte, Bool.or_eq_true, Bool.and_eq_true, decide_eq_true_eq, bne_iff_ne,
    beq_iff_eq]
  omega

/-- A character outside ASCII has a byte that is no text. -/
theorem IsReadable.ascii {text : Text} (readable : IsReadable text) :
    ∀ c ∈ text, c.toNat < 0x80 := by
  intro c member
  rcases Nat.lt_or_ge c.toNat 0x80 with small | large
  · exact small
  · have last : UInt8.ofNat (0x80 + c.toNat % 0x40) ∈ Text.Utf8.encodeChar c := by
      rw [Text.Utf8.encodeChar, if_neg (by omega)]
      split
      · simp
      · split
        · simp
        · simp
    have text := readable _ (List.mem_flatMap.mpr ⟨c, member, last⟩)
    have value : (UInt8.ofNat (0x80 + c.toNat % 0x40)).toNat = 0x80 + c.toNat % 0x40 :=
      UInt8.toNat_ofNat_of_lt' (show _ < 256 by omega)
    simp only [isTextByte, value, Bool.or_eq_true, Bool.and_eq_true, decide_eq_true_eq,
      beq_iff_eq] at text
    omega

/-- A readable text is read back, and of any other one nothing is read. -/
theorem readText?_encode (text : Text) :
    readText? (Text.Utf8.encode text) = if IsReadable text then some text else none := by
  by_cases readable : IsReadable text
  · have ascii := readable.ascii
    have back : (Text.asciiBytes text).map (fun b => Char.ofNat b.toNat) = text := by
      rw [Text.asciiBytes, List.map_map]
      refine (List.map_congr_left fun c member => ?_).trans (List.map_id text)
      rw [Function.comp_apply, Text.toNat_asciiByte (ascii c member), Char.ofNat_toNat, id]
    rw [if_pos readable, readText?, if_pos (List.all_eq_true.mpr readable),
      Text.Utf8.encode_ascii ascii, back]
  · have foreign : ¬ (Text.Utf8.encode text).all isTextByte = true := fun all =>
      readable (List.all_eq_true.mp all)
    rw [if_neg readable, readText?, if_neg foreign]

end Field

/-- A text of visible characters is written without blanks. -/
theorem isFieldBlank_of_visible {text : Text}
    (visible : ∀ c ∈ text, 33 ≤ c.toNat ∧ c.toNat ≤ 126) :
    ∀ byte ∈ Text.Utf8.encode text, isFieldBlank byte = false := by
  intro byte member
  have ascii : ∀ c ∈ text, c.toNat < 0x80 := by
    intro c place
    have bounds := visible c place
    omega
  rw [Text.Utf8.encode_ascii ascii] at member
  obtain ⟨c, place, rfl⟩ := List.mem_map.mp member
  have bounds := visible c place
  simp only [isFieldBlank, Text.toNat_asciiByte (ascii c place), Bool.or_eq_false_iff,
    beq_eq_false_iff_ne]
  omega

namespace Fields

theorem values_append (first second : Fields) (name : Text) :
    values (first ++ second) name = values first name ++ values second name := by
  simp only [values, List.filter_append, List.map_append]

theorem values_singleton (name : Text) (value : Bytes) (sought : Text) :
    values [⟨name, value⟩] sought = if name = sought then [value] else [] := by
  by_cases same : name = sought
  · simp [values, same]
  · simp [values, same]

theorem values_set_self (fields : Fields) (name : Text) (value : Bytes) :
    (fields.set name value).values name = [value] := by
  rw [set, values_append, values_singleton, if_pos rfl]
  have none : values (fields.filter (·.name != name)) name = [] := by
    simp [values, List.filter_filter]
  rw [none, List.nil_append]

theorem values_set_of_ne (fields : Fields) {name sought : Text} (different : sought ≠ name)
    (value : Bytes) : (fields.set name value).values sought = fields.values sought := by
  rw [set, values_append, values_singleton, if_neg different.symm, List.append_nil]
  simp only [values, List.filter_filter]
  congr 1
  apply List.filter_congr
  intro field _
  by_cases same : field.name = sought
  · simp [same, different]
  · simp [same]

/-- Neighbours with different names may change places. -/
theorem values_swap {first second : Field} (different : first.name ≠ second.name)
    (front back : Fields) (name : Text) :
    values (front ++ first :: second :: back) name =
      values (front ++ second :: first :: back) name := by
  rw [values_append, values_append]
  congr 1
  by_cases own : first.name = name
  · have other : second.name ≠ name := own ▸ different.symm
    simp [values, own, other]
  · simp [values, List.filter_cons, own]

theorem values_map (f : Bytes -> Bytes) (fields : Fields) (name : Text) :
    values (fields.map fun field => { field with value := f field.value }) name =
      (values fields name).map f := by
  simp only [values, List.filter_map, List.map_map]
  rfl

theorem values_withDefault (fields : Fields) {name sought : Text} (different : sought ≠ name)
    (value : Bytes) :
    values (Request.withDefault fields name value) sought = values fields sought := by
  rw [Request.withDefault]
  split
  · rfl
  · rw [add, values_append, values_singleton, if_neg different.symm, List.append_nil]

theorem values_withDefault_self (fields : Fields) (name : Text) (value : Bytes) :
    values (Request.withDefault fields name value) name =
      if values fields name = [] then [value] else values fields name := by
  have found : fields.any (·.name == name) = true ↔ values fields name ≠ [] := by
    simp [values]
  rw [Request.withDefault]
  by_cases there : fields.any (·.name == name) = true
  · rw [if_pos there, if_neg (found.mp there)]
  · have absent : values fields name = [] := Decidable.not_not.mp fun full => there (found.mpr full)
    rw [if_neg there, if_pos absent, add, values_append, absent, values_singleton, if_pos rfl,
      List.nil_append]

/-- What is put in depends on nothing but the values of its own name. -/
theorem values_withDefault_congr {first second : Fields} {name sought : Text}
    (own : first.values name = second.values name)
    (same : first.values sought = second.values sought) (value : Bytes) :
    values (Request.withDefault first name value) sought =
      values (Request.withDefault second name value) sought := by
  by_cases here : sought = name
  · rw [here, values_withDefault_self, values_withDefault_self, own]
  · rw [values_withDefault _ here, values_withDefault _ here, same]

end Fields

/-- The fields that a client puts in where they are missing. -/
def Request.clientNames : List Text := ["user-agent", "accept", "host"]

/-- A field that the client does not put in arrives with its values trimmed. -/
theorem Request.values_received (request : Request) (userAgent : Option Text) {name : Text}
    (own : name ∉ clientNames) :
    (request.received userAgent).fields.values name =
      (request.fields.values name).map (Text.trimBy isFieldBlank) := by
  simp only [clientNames, List.mem_cons, List.not_mem_nil, or_false, not_or] at own
  obtain ⟨notAgent, notAccept, notHost⟩ := own
  rw [received, Fields.values_withDefault _ notHost, Fields.values_withDefault _ notAccept]
  cases userAgent with
  | none => exact Fields.values_map _ _ _
  | some agent =>
      rw [Option.elim_some, Fields.values_withDefault _ notAgent]
      exact Fields.values_map _ _ _

end FileShare
