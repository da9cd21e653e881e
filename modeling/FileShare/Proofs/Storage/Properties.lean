import FileShare.Proofs.Codec.Base64
import FileShare.Proofs.Storage.Derivation
import FileShare.Proofs.Storage.Metadata
import FileShare.Storage.Result

/-!
# The properties of a file and the request that created it

The service keeps the size, the headers and the metadata that a file is created with.
Asked for the properties it states the size and the headers under names without `x-ms-`
and the metadata as it was sent.  Sizes and digests are read as they were; texts are if
they are readable, and metadata is if its keys have no capitals besides.
-/

set_option autoImplicit false

namespace FileShare

namespace Fields

theorem values_of_absent {fields : Fields} {name : Text}
    (absent : ∀ field ∈ fields, field.name ≠ name) : fields.values name = [] := by
  have none : fields.filter (·.name == name) = [] :=
    List.filter_eq_nil_iff.mpr fun field member same => absent field member (eq_of_beq same)
  rw [values, none, List.map_nil]

/-- The fields of a table of names, of which some have no value. -/
def ofTable (table : List (Text × Option Bytes)) : Fields :=
  table.filterMap fun row => row.2.map (Field.mk row.1)

theorem ofTable_nil : ofTable [] = [] := rfl

theorem ofTable_cons (row : Text × Option Bytes) (rest : List (Text × Option Bytes)) :
    ofTable (row :: rest) = (row.2.map (Field.mk row.1)).toList ++ ofTable rest := by
  obtain ⟨name, value⟩ := row
  cases value with
  | none => rfl
  | some value => rfl

theorem name_of_mem_ofTable {table : List (Text × Option Bytes)} {field : Field}
    (member : field ∈ ofTable table) : field.name ∈ table.map Prod.fst := by
  obtain ⟨row, place, made⟩ := List.mem_filterMap.mp member
  obtain ⟨value, _, rfl⟩ := Option.map_eq_some_iff.mp made
  exact List.mem_map_of_mem place

theorem values_ofTable {table : List (Text × Option Bytes)}
    (distinct : (table.map Prod.fst).Nodup) {name : Text} {value : Option Bytes}
    (row : (name, value) ∈ table) : (ofTable table).values name = value.toList := by
  induction table with
  | nil => exact absurd row List.not_mem_nil
  | cons head rest ih =>
      rw [List.map_cons, List.nodup_cons] at distinct
      rw [ofTable_cons, values_append]
      rcases List.mem_cons.mp row with rfl | later
      · have once : (ofTable rest).values name = [] :=
          values_of_absent fun field member same =>
            distinct.1 (same ▸ name_of_mem_ofTable member)
        rw [once, List.append_nil]
        cases value with
        | none => rfl
        | some value => exact (values_singleton name value name).trans (if_pos rfl)
      · have other : head.1 ≠ name := fun same =>
          distinct.1 (same ▸ List.mem_map_of_mem later)
        have absent : values (head.2.map (Field.mk head.1)).toList name = [] := by
          refine values_of_absent fun field member => ?_
          obtain ⟨value, _, rfl⟩ := Option.map_eq_some_iff.mp (Option.mem_toList.mp member)
          exact other
        rw [absent, List.nil_append, ih distinct.2 later]

def marked (table : List (Text × Option Bytes)) : List (Text × Option Bytes) :=
  table.map fun row => (Canonical.fieldMark ++ row.1, row.2)

/-! ## What the service states -/

/-- The names under which the service states what it keeps of a file besides metadata. -/
def storedNames : List Text :=
  ["content-length", "content-type", "content-encoding", "content-language", "cache-control",
    "content-disposition", "content-md5"]

/-- A reply repeats what a request has for storing. -/
structure Repeats (reply request : Fields) : Prop where
  stored : ∀ name ∈ storedNames, reply.values name = request.values (Canonical.fieldMark ++ name)
  metadata : reply.filter Metadata.isField = request.filter Metadata.isField

/-- The field in which the service states what it keeps of a field. -/
def storedField? (field : Field) : Option Field :=
  if Metadata.isField field then some field
  else
    match Text.dropPrefix? Canonical.fieldMark field.name with
    | some name => if name ∈ storedNames then some { field with name } else none
    | none => none

/-- All that the service states of a request, in the order of the request. -/
def stored (request : Fields) : Fields := request.filterMap storedField?

theorem storedNames_unmarked :
    ∀ name ∈ storedNames, ∀ value : Bytes,
      Metadata.isField ⟨name, value⟩ = false ∧
        Metadata.isField ⟨Canonical.fieldMark ++ name, value⟩ = false := by
  simp only [storedNames, List.forall_mem_cons]
  exact ⟨fun _ => ⟨rfl, rfl⟩, fun _ => ⟨rfl, rfl⟩, fun _ => ⟨rfl, rfl⟩, fun _ => ⟨rfl, rfl⟩,
    fun _ => ⟨rfl, rfl⟩, fun _ => ⟨rfl, rfl⟩, fun _ => ⟨rfl, rfl⟩, List.forall_mem_nil _⟩

theorem storedField?_cases (field : Field) :
    (Metadata.isField field = true ∧ storedField? field = some field) ∨
      (∃ name ∈ storedNames, field = ⟨Canonical.fieldMark ++ name, field.value⟩ ∧
        storedField? field = some ⟨name, field.value⟩) ∨
      (Metadata.isField field = false ∧
        (∀ name ∈ storedNames, field.name ≠ Canonical.fieldMark ++ name) ∧
        storedField? field = none) := by
  cases marked : Metadata.isField field with
  | true => exact Or.inl ⟨rfl, by rw [storedField?, if_pos marked]⟩
  | false =>
      refine Or.inr ?_
      by_cases kept : ∃ name ∈ storedNames, field.name = Canonical.fieldMark ++ name
      · obtain ⟨name, member, same⟩ := kept
        refine Or.inl ⟨name, member, ?_, ?_⟩
        · rw [← same]
        · rw [storedField?, if_neg (by simp [marked]), same, Text.dropPrefix?_append]
          exact if_pos member
      · have others : ∀ name ∈ storedNames, field.name ≠ Canonical.fieldMark ++ name :=
          fun name member same => kept ⟨name, member, same⟩
        refine Or.inr ⟨rfl, others, ?_⟩
        rw [storedField?, if_neg (by simp [marked])]
        cases drop : Text.dropPrefix? Canonical.fieldMark field.name with
        | none => rfl
        | some name =>
            exact if_neg fun member => others name member (Text.eq_append_of_dropPrefix? drop)

theorem Repeats.append {reply request moreReply moreRequest : Fields}
    (front : reply.Repeats request) (back : moreReply.Repeats moreRequest) :
    Repeats (reply ++ moreReply) (request ++ moreRequest) := by
  constructor
  · intro name member
    rw [values_append, values_append, front.stored name member, back.stored name member]
  · rw [List.filter_append, List.filter_append, front.metadata, back.metadata]

theorem storedField?_repeats (field : Field) : Repeats (storedField? field).toList [field] := by
  rcases storedField?_cases field with ⟨marked, same⟩ | ⟨kept, place, whole, moved⟩ |
    ⟨unmarked, others, none⟩
  · rw [same]
    refine ⟨fun name member => ?_, rfl⟩
    have bare := storedNames_unmarked name member field.value
    have apart {other : Text} (foreign : Metadata.isField ⟨other, field.value⟩ = false) :
        values [field] other = [] := by
      refine values_of_absent fun found single same => ?_
      rw [List.mem_singleton.mp single] at same
      rw [← same] at foreign
      rw [foreign] at marked
      cases marked
    exact (apart bare.1).trans (apart bare.2).symm
  · rw [moved]
    have bare := storedNames_unmarked kept place field.value
    constructor
    · intro name member
      rw [whole, Option.toList_some, values_singleton, values_singleton]
      simp only [List.append_cancel_left_eq]
    · rw [whole, Option.toList_some]
      simp [bare.1, bare.2]
  · rw [none]
    constructor
    · intro name member
      refine (values_of_absent fun found single => ?_).symm
      rw [List.mem_singleton.mp single]
      exact others name member
    · simp [unmarked]

theorem stored_repeats (request : Fields) : (stored request).Repeats request := by
  induction request with
  | nil => exact ⟨fun _ _ => rfl, rfl⟩
  | cons field rest ih =>
      have split : stored (field :: rest) = (storedField? field).toList ++ stored rest := by
        rw [stored, stored, List.filterMap_cons]
        cases storedField? field with
        | none => rfl
        | some kept => rfl
      rw [split]
      exact (storedField?_repeats field).append ih

end Fields

namespace FileHeaders

def texts (headers : FileHeaders) : List Text :=
  [headers.contentType, headers.contentEncoding, headers.contentLanguage, headers.cacheControl,
    headers.contentDisposition].filterMap id

theorem forall_texts {headers : FileHeaders} {P : Text -> Prop} :
    (∀ text ∈ headers.texts, P text) ↔
      (∀ text ∈ headers.contentType, P text) ∧ (∀ text ∈ headers.contentEncoding, P text) ∧
        (∀ text ∈ headers.contentLanguage, P text) ∧ (∀ text ∈ headers.cacheControl, P text) ∧
        ∀ text ∈ headers.contentDisposition, P text := by
  simp only [texts, List.mem_filterMap, List.mem_cons, List.not_mem_nil, or_false, id,
    exists_eq_right, or_imp, forall_and, Option.mem_def, eq_comm (a := some _)]

/-- The values that are sent for the headers, by their names without the mark. -/
def table (headers : FileHeaders) : List (Text × Option Bytes) :=
  [("content-type", headers.contentType.map Text.Utf8.encode),
    ("content-encoding", headers.contentEncoding.map Text.Utf8.encode),
    ("content-language", headers.contentLanguage.map Text.Utf8.encode),
    ("cache-control", headers.cacheControl.map Text.Utf8.encode),
    ("content-disposition", headers.contentDisposition.map Text.Utf8.encode),
    ("content-md5", headers.contentMd5.map Base64.encode)]

theorem table_names {headers : FileHeaders} {row : Text × Option Bytes}
    (member : row ∈ headers.table) : row.1 ∈ Fields.storedNames := by
  have all : ∀ name ∈ headers.table.map Prod.fst, name ∈ Fields.storedNames := by
    simp only [table, List.map_cons, List.map_nil]
    decide
  exact all row.1 (List.mem_map_of_mem member)

theorem toFields_lowered (headers : FileHeaders) :
    headers.toFields.map Request.lowered = Fields.ofTable (Fields.marked headers.table) := by
  have field {α : Type} (sent name : Text)
      (small : Text.asciiLower sent = Canonical.fieldMark ++ name) (value : Option α)
      (write : α -> Bytes) :
      ((value.map fun a => (sent, write a)).toList).map Request.lowered =
        ((value.map write).map (Field.mk (Canonical.fieldMark ++ name))).toList := by
    cases value with
    | none => rfl
    | some a => exact congrArg (fun name => [Field.mk name (write a)]) small
  simp only [toFields, List.map_append, table, Fields.marked, List.map_cons, List.map_nil,
    Fields.ofTable_cons, Fields.ofTable_nil, List.append_nil]
  rw [field _ "content-type" (by decide), field _ "content-encoding" (by decide),
    field _ "content-language" (by decide), field _ "cache-control" (by decide),
    field _ "content-disposition" (by decide), field _ "content-md5" (by decide)]
  simp only [List.append_assoc]

theorem text_returns_iff (value : Option Text) :
    (value.map Text.Utf8.encode).bind Field.readText? = value ↔
      ∀ text ∈ value, Field.IsReadable text := by
  cases value with
  | none => simp
  | some text =>
      rw [Option.map_some, Option.bind_some, Field.readText?_encode]
      by_cases readable : Field.IsReadable text
      · simp [readable]
      · simp [readable]

theorem md5_returns (value : Option Bytes) :
    ((value.map Base64.encode).bind Field.readText?).bind readMd5? = value := by
  cases value with
  | none => rfl
  | some bytes =>
      have text : (Base64.encode bytes).all Field.isTextByte = true := by
        refine List.all_eq_true.mpr fun byte member => ?_
        have visible := Base64.mem_encode member
        simp only [Field.isTextByte, Bool.or_eq_true, Bool.and_eq_true, decide_eq_true_eq]
        omega
      have read : Field.readText? (Base64.encode bytes) = some (Base64.encodeText bytes) :=
        if_pos text
      rw [Option.map_some, Option.bind_some, read, Option.bind_some, readMd5?,
        Base64.utf8_encodeText, Base64.decode_encode]

end FileHeaders

theorem Fields.text?_of_values {fields : Fields} {name : Text} {value : Option Bytes}
    (same : fields.values name = value.toList) :
    fields.text? name = value.bind Field.readText? := by
  rw [text?, first?, same]
  cases value with
  | none => rfl
  | some value => rfl

/-- The headers of a reply with the values of their table are the same exactly if the texts
are readable. -/
theorem FileHeaders.ofFields_eq_iff {headers : FileHeaders} {reply : Fields}
    (stated : ∀ row ∈ headers.table, reply.values row.1 = row.2.toList) :
    FileHeaders.ofFields reply = headers ↔ ∀ text ∈ headers.texts, Field.IsReadable text := by
  simp only [table, List.forall_mem_cons] at stated
  obtain ⟨type, encoding, language, cache, disposition, md5, _⟩ := stated
  rw [forall_texts, ofFields, Fields.text?_of_values type, Fields.text?_of_values encoding,
    Fields.text?_of_values language, Fields.text?_of_values cache, Fields.text?_of_values md5,
    Fields.text?_of_values disposition, md5_returns]
  simp only [← text_returns_iff]
  constructor
  · intro same
    exact ⟨congrArg contentType same, congrArg contentEncoding same,
      congrArg contentLanguage same, congrArg cacheControl same,
      congrArg contentDisposition same⟩
  · rintro ⟨type, encoding, language, cache, disposition⟩
    rw [type, encoding, language, cache, disposition]

namespace Operation

/-- The names without the mark that the request for a new file has besides metadata. -/
def createdNames : List Text :=
  ["type", "content-length", "file-permission", "file-attributes", "file-creation-time",
    "file-last-write-time", "content-type", "content-encoding", "content-language",
    "cache-control", "content-disposition", "content-md5"]

def createdTable (size : UInt64) (headers : FileHeaders) : List (Text × Option Bytes) :=
  ("type", some (Text.Utf8.encode "file")) ::
    ("content-length", some (Text.Utf8.encode (Text.decimal size.toNat))) ::
    ("file-permission", some (Text.Utf8.encode "inherit")) ::
    ("file-attributes", some (Text.Utf8.encode "None")) ::
    ("file-creation-time", some (Text.Utf8.encode "now")) ::
    ("file-last-write-time", some (Text.Utf8.encode "now")) :: headers.table

theorem createdTable_names (size : UInt64) (headers : FileHeaders) :
    (Fields.marked (createdTable size headers)).map Prod.fst =
      createdNames.map (Canonical.fieldMark ++ ·) := rfl

theorem createdNames_nodup : (createdNames.map (Canonical.fieldMark ++ ·)).Nodup := by decide

theorem createdNames_own {name : Text}
    (member : name ∈ createdNames.map (Canonical.fieldMark ++ ·)) :
    name ≠ authorizationField ∧ Metadata.fieldMark.isPrefixOf name = false := by
  have all : ∀ name ∈ createdNames.map (Canonical.fieldMark ++ ·),
      name ≠ authorizationField ∧ Metadata.fieldMark.isPrefixOf name = false := by decide
  exact all name member

section CreateFile

variable {file : File} {size : UInt64} {headers : FileHeaders} {metadata : Option Metadata}
variable {request : Request}

theorem createFile_fields (built : (createFile file size headers metadata).request = .ok request) :
    request.fields =
      (createFile file size headers metadata).asked.fields ++
        (Fields.ofTable (Fields.marked (createdTable size headers)) ++
          (metadata.getD []).toFields.map Request.lowered) := by
  obtain ⟨pairs, given, rfl⟩ := request_ok built
  obtain rfl := Except.ok.inj given
  have lowered {sent : Text} (name : Text)
      (small : Text.asciiLower sent = Canonical.fieldMark ++ name) (value : Text) :
      Request.lowered (textField sent value) =
        ⟨Canonical.fieldMark ++ name, Text.Utf8.encode value⟩ :=
    congrArg (fun name => Field.mk name (Text.Utf8.encode value)) small
  have pairs : metadataFields metadata = (metadata.getD []).toFields := by
    cases metadata with
    | none => rfl
    | some pairs => rfl
  simp only [createdTable, Fields.marked, List.map_append, List.map_cons, List.map_nil,
    inheritedFields, Fields.ofTable_cons, Option.map_some, Option.toList_some, pairs,
    FileHeaders.toFields_lowered]
  rw [lowered "type" (by decide), lowered "content-length" (by decide),
    lowered "file-permission" (by decide), lowered "file-attributes" (by decide),
    lowered "file-creation-time" (by decide), lowered "file-last-write-time" (by decide)]
  simp only [List.cons_append, List.nil_append]

theorem isField_of_mem_metadata {field : Field}
    (member : field ∈ (metadata.getD []).toFields.map Request.lowered) :
    Metadata.isField field = true := by
  obtain ⟨pair, place, rfl⟩ := List.mem_map.mp member
  obtain ⟨entry, _, rfl⟩ := List.mem_map.mp place
  rfl

theorem createFile_values (built : (createFile file size headers metadata).request = .ok request)
    {row : Text × Option Bytes} (member : row ∈ createdTable size headers) :
    request.fields.values (Canonical.fieldMark ++ row.1) = row.2.toList := by
  have place : (Canonical.fieldMark ++ row.1, row.2) ∈
      Fields.marked (createdTable size headers) := List.mem_map_of_mem member
  have created : Canonical.fieldMark ++ row.1 ∈ createdNames.map (Canonical.fieldMark ++ ·) := by
    rw [← createdTable_names size headers]
    exact List.mem_map_of_mem (f := Prod.fst) place
  obtain ⟨notAuthorization, unmarked⟩ := createdNames_own created
  have before : Fields.values (createFile file size headers metadata).asked.fields
      (Canonical.fieldMark ++ row.1) = [] :=
    Fields.values_of_absent fun field member same =>
      notAuthorization (same ▸ asked_fields _ field member)
  have behind : Fields.values ((metadata.getD []).toFields.map Request.lowered)
      (Canonical.fieldMark ++ row.1) = [] := by
    refine Fields.values_of_absent fun field member same => ?_
    have marked := isField_of_mem_metadata member
    rw [Metadata.isField, same, unmarked] at marked
    cases marked
  have distinct : ((Fields.marked (createdTable size headers)).map Prod.fst).Nodup := by
    rw [createdTable_names]
    exact createdNames_nodup
  rw [createFile_fields built, Fields.values_append, Fields.values_append, before, behind,
    List.nil_append, List.append_nil, Fields.values_ofTable distinct place]

theorem createFile_metadata
    (built : (createFile file size headers metadata).request = .ok request) :
    request.fields.filter Metadata.isField = (metadata.getD []).toFields.map Request.lowered := by
  have before : (createFile file size headers metadata).asked.fields.filter Metadata.isField =
      [] := by
    refine List.filter_eq_nil_iff.mpr fun field member => ?_
    rw [Metadata.isField, asked_fields _ field member]
    decide
  have table : (Fields.ofTable (Fields.marked (createdTable size headers))).filter
      Metadata.isField = [] := by
    refine List.filter_eq_nil_iff.mpr fun field member => ?_
    rw [Metadata.isField, (createdNames_own (Fields.name_of_mem_ofTable member)).2]
    decide
  rw [createFile_fields built, List.filter_append, List.filter_append, before, table,
    List.nil_append, List.nil_append]
  exact List.filter_eq_self.mpr fun field member => isField_of_mem_metadata member

end CreateFile

end Operation

/-- The attributes that a file is created with are read from a reply that repeats them exactly
if no key of the metadata has a capital and all its values and all textual headers are
readable. -/
theorem created_attributes_return_iff {file : File} {size : UInt64} {headers : FileHeaders}
    {metadata : Option Metadata} {request : Request} {reply : Fields}
    (built : (Operation.createFile file size headers metadata).request = .ok request)
    (ascending : (metadata.getD []).Ascending) (repeats : reply.Repeats request.fields) :
    ((FileProperties.ofResponse reply).contentLength = size ∧
        (FileProperties.ofResponse reply).headers = headers ∧
        (FileProperties.ofResponse reply).metadata = metadata.getD []) ↔
      (∀ pair ∈ metadata.getD [], Metadata.IsSmall pair.1 ∧ Field.IsReadable pair.2) ∧
        ∀ text ∈ headers.texts, Field.IsReadable text := by
  have stated : ∀ name ∈ Fields.storedNames, ∀ value,
      (name, value) ∈ Operation.createdTable size headers →
        reply.values name = Option.toList value :=
    fun name member value row =>
      (repeats.stored name member).trans (Operation.createFile_values built row)
  have length : (FileProperties.ofResponse reply).contentLength = size := by
    have digits : Field.IsReadable (Text.decimal size.toNat) := by
      refine Field.isReadable_of_printable fun c digit => ?_
      have figure := Text.mem_decimal digit
      simp only [Text.isAsciiDigit, Bool.and_eq_true, decide_eq_true_eq] at figure
      omega
    have text : reply.text? "content-length" = some (Text.decimal size.toNat) := by
      rw [Fields.text?_of_values
        (stated "content-length" (by decide) _ (List.mem_cons_of_mem _ List.mem_cons_self)),
        Option.bind_some, Field.readText?_encode, if_pos digits]
    rw [FileProperties.ofResponse, text, Option.bind_some, Text.readWord?_decimal,
      Option.getD_some]
  have kept : (FileProperties.ofResponse reply).headers = headers ↔
      ∀ text ∈ headers.texts, Field.IsReadable text := by
    refine FileHeaders.ofFields_eq_iff fun row member => ?_
    have created : row ∈ Operation.createdTable size headers := by
      simp only [Operation.createdTable, List.mem_cons]
      simp only [member, or_true]
    exact stated row.1 (FileHeaders.table_names member) row.2 created
  have pairs : (FileProperties.ofResponse reply).metadata = metadata.getD [] ↔
      ∀ pair ∈ metadata.getD [], Metadata.IsSmall pair.1 ∧ Field.IsReadable pair.2 := by
    have same : Metadata.ofFields reply =
        Metadata.ofFields ((metadata.getD []).toFields.map Request.lowered) := by
      rw [← Metadata.ofFields_filter reply, repeats.metadata,
        Operation.createFile_metadata built]
    rw [FileProperties.ofResponse, same]
    exact Metadata.ofFields_toFields_iff ascending
  rw [kept, pairs]
  exact ⟨fun all => ⟨all.2.2, all.2.1⟩, fun all => ⟨length, all.2, all.1⟩⟩

/-- Metadata of which one value is empty and one has a tab. -/
def Metadata.sample : Metadata := [("a", []), ("b-2", "x\ty")]

/-- Creates a file with two headers and this metadata. -/
def Operation.creatingFileSample : Operation :=
  .createFile ((Service.sample.share "files").root.file "a") 5
    { contentType := some "text/plain", contentMd5 := some [0, 255, 16, 1] } (some Metadata.sample)

theorem created_attributes_return_sample :
    ∃ request, Operation.creatingFileSample.request = .ok request ∧
      Metadata.sample.Ascending ∧ (Fields.stored request.fields).Repeats request.fields ∧
      (FileProperties.ofResponse (Fields.stored request.fields)).headers =
        { contentType := some "text/plain", contentMd5 := some [0, 255, 16, 1] } ∧
      (FileProperties.ofResponse (Fields.stored request.fields)).metadata = Metadata.sample := by
  obtain ⟨request, built⟩ :=
    ok_of_isOk (show Operation.creatingFileSample.request.isOk = true by decide +kernel)
  have ascending : Metadata.sample.Ascending := by decide
  have repeats := Fields.stored_repeats request.fields
  obtain ⟨-, headers, metadata⟩ :=
    (created_attributes_return_iff built ascending repeats).mpr (by decide)
  exact ⟨request, built, ascending, repeats, headers, metadata⟩

end FileShare
