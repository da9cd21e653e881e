import FileShare.Proofs.Http.Field
import FileShare.Proofs.Signing.Groups
import FileShare.Proofs.Text.Blank
import FileShare.Proofs.Text.Separated
import FileShare.Signing.Credential

/-!
# The signed text is unambiguous

Two requests with the same signed text agree in everything that the signature
covers.  The text has no marks between its sections, so they are found by what
can stand in them.  The twelve lines in front hold no line end.  Each further
line begins with the letter of `x-ms-` and has its first colon behind the name,
while the resource begins with a slash.  A path holds no line end, and every
line of the query begins with one.
-/

set_option autoImplicit false

namespace FileShare

/-- What the method, the names of fields and the path of every request keep to.
Nothing is asked of the values of fields and of the query. -/
structure Request.Lawful (request : Request) : Prop where
  method : ∀ c ∈ request.method, Field.isNameChar c = true
  names : ∀ field ∈ request.fields, Field.name? field.name = some field.name
  path : ∀ c ∈ request.url.pathText, 32 ≤ c.toNat

namespace Canonical

/-- The standard fields that are signed with their first value as it is. -/
def standardNames : List Text :=
  ["content-encoding", "content-language", "content-md5", "content-type", "if-modified-since",
    "if-match", "if-none-match", "if-unmodified-since", "range"]

/-- All standard fields whose values are signed. -/
def lineNames : List Text := "content-length".toList :: standardNames

def noLength : List Text := [[], "0"]

/-- The signed values of an `x-ms-` field, joined by commas, if the field is there. -/
def signedGroup? (fields : Fields) (name : Text) : Option Text :=
  if fields.values name = [] then none
  else some (List.intercalate [','] ((fields.values name).map signedValue))

def lineText (line : Text × Text) : Text := line.1 ++ ':' :: line.2 ++ ['\n']

/-- The names of the `x-ms-` fields with their joined values. -/
def signedLines (fields : Fields) : List (Text × Text) :=
  (Groups.ofPairs (fieldPairs fields)).map fun group =>
    (group.1, List.intercalate [','] group.2)

theorem fieldLines_eq (fields : Fields) :
    fieldLines fields = (signedLines fields).flatMap lineText := by
  rw [fieldLines, signedLines, List.flatMap_map]
  rfl

theorem valuesOf_fieldPairs (fields : Fields) {name : Text} (marked : fieldMark.isPrefixOf name) :
    valuesOf (fieldPairs fields) name = (fields.values name).map signedValue := by
  induction fields with
  | nil => rfl
  | cons field rest ih =>
      by_cases same : field.name = name
      · simp only [fieldPairs, Fields.values, valuesOf] at ih ⊢
        simp [same, marked, ih]
      · simp only [fieldPairs, Fields.values, valuesOf] at ih ⊢
        by_cases other : fieldMark.isPrefixOf field.name
        · simp [same, other, ih]
        · simp [same, other, ih]

theorem lookup_signedLines (fields : Fields) {name : Text} (marked : fieldMark.isPrefixOf name) :
    (signedLines fields).lookup name = signedGroup? fields name := by
  rw [signedLines, Groups.lookup_map_values, Groups.lookup_ofPairs,
    valuesOf_fieldPairs fields marked, signedGroup?]
  by_cases absent : fields.values name = []
  · simp [absent]
  · simp [absent]

theorem signedGroup_of_signedLines {first second : Fields}
    (lines : signedLines first = signedLines second) {name : Text}
    (marked : fieldMark.isPrefixOf name) : signedGroup? first name = signedGroup? second name := by
  rw [← lookup_signedLines first marked, lines, lookup_signedLines second marked]

/-- The name of a line begins like those of the signed fields and has no colon, and
its value has no line end. -/
structure IsLine (line : Text × Text) : Prop where
  marked : fieldMark.isPrefixOf line.1 = true
  name : ':' ∉ line.1
  value : '\n' ∉ line.2

theorem lineEnd_not_mem_read (value? : Option Bytes) :
    '\n' ∉ (value?.bind Field.readText?).getD [] := by
  intro member
  cases read : value?.bind Field.readText? with
  | none => simp [read] at member
  | some text =>
      obtain ⟨value, -, readable⟩ := Option.bind_eq_some_iff.mp read
      rw [read, Option.getD_some] at member
      have bounds := Field.mem_readText readable member
      simp at bounds

theorem lineEnd_not_mem_text (fields : Fields) (name : Text) : '\n' ∉ fields.text name :=
  lineEnd_not_mem_read (fields.first? name)

theorem lineEnd_not_mem_signedValue (value : Bytes) : '\n' ∉ signedValue value :=
  fun member => lineEnd_not_mem_read (some value) (Text.mem_of_mem_trimBy member)

theorem isLine_of_mem {fields : Fields}
    (names : ∀ field ∈ fields, Field.name? field.name = some field.name) {line : Text × Text}
    (member : line ∈ signedLines fields) : IsLine line := by
  obtain ⟨group, place, rfl⟩ := List.mem_map.mp member
  obtain ⟨given, values⟩ := Groups.mem_ofPairs place
  have origin : ∀ value ∈ valuesOf (fieldPairs fields) group.1, ∃ field ∈ fields,
      fieldMark.isPrefixOf field.name ∧ field.name = group.1 ∧
        signedValue field.value = value := by
    intro value inside
    obtain ⟨field, kept, same⟩ := List.mem_map.mp (mem_valuesOf.mp inside)
    obtain ⟨present, marked⟩ := List.mem_filter.mp kept
    exact ⟨field, present, marked, congrArg Prod.fst same, congrArg Prod.snd same⟩
  obtain ⟨value, inside⟩ := List.exists_mem_of_ne_nil _ given
  obtain ⟨field, present, marked, name, -⟩ := origin value inside
  constructor
  · rw [← name]
    exact marked
  · intro colon
    rw [← name] at colon
    have bounds := Field.mem_name (names field present) colon
    simp at bounds
  · intro lineEnd
    rcases Text.mem_of_mem_intercalate lineEnd with joint | ⟨piece, found, here⟩
    · simp at joint
    · rw [values] at found
      obtain ⟨other, -, -, -, signed⟩ := origin piece found
      rw [← signed] at here
      exact lineEnd_not_mem_signedValue other.value here

theorem lineText_append_inj {line₁ line₂ : Text × Text} {rest₁ rest₂ : Text}
    (isLine₁ : IsLine line₁) (isLine₂ : IsLine line₂)
    (same : lineText line₁ ++ rest₁ = lineText line₂ ++ rest₂) :
    line₁ = line₂ ∧ rest₁ = rest₂ := by
  simp only [lineText, List.append_assoc, List.cons_append, List.nil_append] at same
  obtain ⟨names, values⟩ := Text.append_sep_inj isLine₁.name isLine₂.name same
  obtain ⟨joined, rests⟩ := Text.append_sep_inj isLine₁.value isLine₂.value values
  exact ⟨Prod.ext names joined, rests⟩

theorem lineText_ne_slash {line : Text × Text} (isLine : IsLine line) (rest after : Text) :
    lineText line ++ rest ≠ '/' :: after := by
  obtain ⟨name, same⟩ := List.isPrefixOf_iff_prefix.mp isLine.marked
  intro slash
  rw [lineText, ← same] at slash
  exact absurd (List.cons.inj slash).1 (by decide)

/-- The lines end where the slash of the resource stands. -/
theorem flatMap_lineText_inj {lines₁ lines₂ : List (Text × Text)} {rest₁ rest₂ : Text}
    (areLines₁ : ∀ line ∈ lines₁, IsLine line) (areLines₂ : ∀ line ∈ lines₂, IsLine line)
    (same : lines₁.flatMap lineText ++ '/' :: rest₁ = lines₂.flatMap lineText ++ '/' :: rest₂) :
    lines₁ = lines₂ ∧ rest₁ = rest₂ := by
  -- One list is not over before the other: where it ends, the text goes on with a slash.
  induction lines₁ generalizing lines₂ with
  | nil =>
      cases lines₂ with
      | nil => exact ⟨rfl, (List.cons.inj same).2⟩
      | cons line₂ more₂ =>
          rw [List.flatMap_cons, List.append_assoc] at same
          exact absurd same.symm (lineText_ne_slash (areLines₂ line₂ List.mem_cons_self) _ _)
  | cons line₁ more₁ ih =>
      cases lines₂ with
      | nil =>
          rw [List.flatMap_cons, List.append_assoc] at same
          exact absurd same (lineText_ne_slash (areLines₁ line₁ List.mem_cons_self) _ _)
      | cons line₂ more₂ =>
          rw [List.flatMap_cons, List.flatMap_cons, List.append_assoc, List.append_assoc] at same
          obtain ⟨head, tail⟩ := lineText_append_inj (areLines₁ line₁ List.mem_cons_self)
            (areLines₂ line₂ List.mem_cons_self) same
          obtain ⟨lines, rests⟩ :=
            ih (fun other member => areLines₁ other (List.mem_cons_of_mem _ member))
              (fun other member => areLines₂ other (List.mem_cons_of_mem _ member)) tail
          exact ⟨by rw [head, lines], rests⟩

theorem queryLines_begins (url : Url) : Text.BeginsWith '\n' (queryLines url) := by
  rw [queryLines]
  cases Groups.ofPairs (queryPairs url) with
  | nil => exact Or.inl rfl
  | cons group rest => exact Or.inr ⟨_, rfl⟩

theorem lineEnd_not_mem_standardLines {request : Request} (lawful : request.Lawful) :
    ∀ line ∈ standardLines request, '\n' ∉ line := by
  have method : '\n' ∉ request.method := by
    intro member
    have bounds := Field.isNameChar_bounds (lawful.method _ member)
    simp at bounds
  have length : '\n' ∉ signedLength request.fields := by
    simp only [signedLength]
    split
    · exact List.not_mem_nil
    · exact lineEnd_not_mem_text _ _
  simp only [standardLines, List.forall_mem_cons]
  exact ⟨method, lineEnd_not_mem_text _ _, lineEnd_not_mem_text _ _, length,
    lineEnd_not_mem_text _ _, lineEnd_not_mem_text _ _, List.not_mem_nil,
    lineEnd_not_mem_text _ _, lineEnd_not_mem_text _ _, lineEnd_not_mem_text _ _,
    lineEnd_not_mem_text _ _, lineEnd_not_mem_text _ _,
    List.forall_mem_nil _⟩

theorem length_of_signedLength {fields₁ fields₂ : Fields}
    (same : signedLength fields₁ = signedLength fields₂) :
    fields₁.text "content-length" = fields₂.text "content-length" ∨
      fields₁.text "content-length" ∈ noLength ∧ fields₂.text "content-length" ∈ noLength := by
  simp only [signedLength] at same
  simp only [noLength, List.mem_cons, List.not_mem_nil, or_false]
  split at same
  · rename_i zero₁
    split at same
    · rename_i zero₂
      exact Or.inr ⟨Or.inr zero₁, Or.inr zero₂⟩
    · exact Or.inr ⟨Or.inr zero₁, Or.inl same.symm⟩
  · split at same
    · rename_i zero₂
      exact Or.inr ⟨Or.inl same, Or.inr zero₂⟩
    · exact Or.inl same

/-- The three sections of the signed text are found in it. -/
theorem sections_inj {accountName : Text} {first second : Request} (lawful₁ : first.Lawful)
    (lawful₂ : second.Lawful)
    (same : stringToSign accountName first = stringToSign accountName second) :
    standardLines first = standardLines second ∧
      signedLines first.fields = signedLines second.fields ∧
      first.url.pathText = second.url.pathText ∧
      queryLines first.url = queryLines second.url := by
  simp only [stringToSign, resource, fieldLines_eq, List.append_assoc, List.cons_append] at same
  obtain ⟨standard, signed⟩ := Text.flatMap_append_sep_inj
    (lineEnd_not_mem_standardLines lawful₁) (lineEnd_not_mem_standardLines lawful₂) rfl same
  obtain ⟨lines, account⟩ := flatMap_lineText_inj (fun _ => isLine_of_mem lawful₁.names)
    (fun _ => isLine_of_mem lawful₂.names) signed
  have lineEnd {request : Request} (lawful : request.Lawful) : '\n' ∉ request.url.pathText :=
    fun member => absurd (lawful.path _ member) (by decide)
  obtain ⟨path, query⟩ := Text.append_begins_inj (lineEnd lawful₁) (lineEnd lawful₂)
    (queryLines_begins first.url) (queryLines_begins second.url)
    (List.append_cancel_left account)
  exact ⟨standard, lines, path, query⟩

/-- The requests agree in all that the signature covers. -/
structure SignedAlike (first second : Request) : Prop where
  method : first.method = second.method
  standard : ∀ name ∈ standardNames, first.fields.text name = second.fields.text name
  /-- No announced length counts as one of zero. -/
  length : first.fields.text "content-length" = second.fields.text "content-length" ∨
    first.fields.text "content-length" ∈ noLength ∧ second.fields.text "content-length" ∈ noLength
  marked : ∀ name, fieldMark.isPrefixOf name ->
    signedGroup? first.fields name = signedGroup? second.fields name
  path : first.url.pathText = second.url.pathText
  query : queryLines first.url = queryLines second.url

/-- Equal signed texts come from requests that agree in all that is signed. -/
theorem stringToSign_unambiguous (credential : Credential) {first second : Request}
    (lawful₁ : first.Lawful) (lawful₂ : second.Lawful)
    (same : stringToSign credential.accountName first =
      stringToSign credential.accountName second) : SignedAlike first second := by
  obtain ⟨standard, lines, path, query⟩ := sections_inj lawful₁ lawful₂ same
  simp only [standardLines, List.cons.injEq] at standard
  obtain ⟨method, encoding, language, length, digest, type, -, modified, tagged, untagged,
    unmodified, range, -⟩ := standard
  refine ⟨method, ?_, length_of_signedLength length, ?_, path, query⟩
  · simp only [standardNames, List.forall_mem_cons]
    exact ⟨encoding, language, digest, type, modified, tagged, untagged, unmodified, range,
      List.forall_mem_nil _⟩
  · intro name marked
    rw [← lookup_signedLines _ marked, ← lookup_signedLines _ marked, lines]

/-- Two ways to write one request: fields and query in another order, and a length of
zero left out. -/
theorem stringToSign_unambiguous_sample :
    let url : Url :=
      { scheme := "http", username := [], password := [], host := some (.domain "files")
        port := none, path := .segments ["share"], isSetApart := false
        query := some "b=2&a=1", fragment := none }
    let first : Request :=
      { method := "PUT", url, body := none
        fields := [⟨"content-length", [48]⟩, ⟨"x-ms-b", [50]⟩, ⟨"x-ms-a", [49]⟩] }
    let second : Request :=
      { method := "PUT", url := { url with query := some "A=1&b=2" }, body := none
        fields := [⟨"x-ms-a", [32, 49]⟩, ⟨"x-ms-b", [50]⟩] }
    first ≠ second ∧ SignedAlike first second := by
  refine ⟨by decide, ?_⟩
  apply stringToSign_unambiguous ⟨"account", []⟩
  · exact ⟨Text.forall_of_all (by decide), Text.forall_of_all (by decide),
      Text.forall_of_all (by decide)⟩
  · exact ⟨Text.forall_of_all (by decide), Text.forall_of_all (by decide),
      Text.forall_of_all (by decide)⟩
  · decide

end Canonical

end FileShare
