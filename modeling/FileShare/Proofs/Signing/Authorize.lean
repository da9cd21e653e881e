import FileShare.Proofs.Clock
import FileShare.Proofs.Codec.Base64
import FileShare.Proofs.Http.Field
import FileShare.Proofs.Signing.Unambiguous
import FileShare.Proofs.Text.Utf8
import FileShare.Signing.Authorize

/-!
# The signature of a request that arrives

Between signing and arrival a request loses its user info, its fragment and the
blanks around values, and gains the signature itself and the fields of the
client.  Nothing of that is signed, as long as the standard fields have no
blanks around their values: those of the `x-ms-` fields are signed without
blanks.  So whoever receives the request computes the text that was signed.
-/

set_option autoImplicit false

namespace FileShare

namespace Canonical

theorem blank_of_isFieldBlank {byte : UInt8} (blank : isFieldBlank byte = true) :
    Field.isTextByte byte = true ∧ Text.isBlank (Char.ofNat byte.toNat) = true := by
  simp only [isFieldBlank, Bool.or_eq_true, beq_iff_eq] at blank
  rcases blank with space | tab
  · simp only [Field.isTextByte, space]
    exact ⟨by decide, by decide⟩
  · simp only [Field.isTextByte, tab]
    exact ⟨by decide, by decide⟩

theorem signedValue_trim (value : Bytes) :
    signedValue (Text.trimBy isFieldBlank value) = signedValue value := by
  obtain ⟨front, back, split, frontBlank, backBlank⟩ := Text.trimBy_split isFieldBlank value
  generalize Text.trimBy isFieldBlank value = inner at split
  subst split
  have readable {list : Bytes} (blank : ∀ byte ∈ list, isFieldBlank byte = true) :
      list.all Field.isTextByte = true :=
    List.all_eq_true.mpr fun byte member => (blank_of_isFieldBlank (blank byte member)).1
  have white {list : Bytes} (blank : ∀ byte ∈ list, isFieldBlank byte = true) :
      ∀ c ∈ list.map fun byte => Char.ofNat byte.toNat, Text.isBlank c = true := by
    intro c member
    obtain ⟨byte, place, rfl⟩ := List.mem_map.mp member
    exact (blank_of_isFieldBlank (blank byte place)).2
  simp only [signedValue, Field.readText?, List.all_append, readable frontBlank,
    readable backBlank, Bool.true_and, Bool.and_true, List.map_append]
  split
  · simp only [Option.getD_some, Text.trim]
    rw [Text.trimBy_append (white frontBlank) (white backBlank)]
  · rfl

theorem fieldPairs_append (first second : Fields) :
    fieldPairs (first ++ second) = fieldPairs first ++ fieldPairs second := by
  simp only [fieldPairs, List.filter_append, List.map_append]

theorem fieldPairs_unmarked {name : Text} (unmarked : fieldMark.isPrefixOf name = false)
    (value : Bytes) : fieldPairs [⟨name, value⟩] = [] := by
  simp [fieldPairs, unmarked]

theorem fieldPairs_set {name : Text} (unmarked : fieldMark.isPrefixOf name = false)
    (fields : Fields) (value : Bytes) : fieldPairs (fields.set name value) = fieldPairs fields := by
  rw [Fields.set, fieldPairs_append, fieldPairs_unmarked unmarked, List.append_nil]
  simp only [fieldPairs, List.filter_filter]
  congr 1
  apply List.filter_congr
  intro field _
  by_cases same : field.name = name
  · simp [same, unmarked]
  · simp [same]

theorem fieldPairs_withDefault {name : Text} (unmarked : fieldMark.isPrefixOf name = false)
    (fields : Fields) (value : Bytes) :
    fieldPairs (Request.withDefault fields name value) = fieldPairs fields := by
  rw [Request.withDefault]
  split
  · rfl
  · rw [Fields.add, fieldPairs_append, fieldPairs_unmarked unmarked, List.append_nil]

theorem fieldPairs_trim (fields : Fields) :
    fieldPairs (fields.map fun field =>
      { field with value := Text.trimBy isFieldBlank field.value }) = fieldPairs fields := by
  induction fields with
  | nil => rfl
  | cons field rest ih =>
      simp only [fieldPairs] at ih ⊢
      by_cases marked : fieldMark.isPrefixOf field.name
      · simp [marked, ih, signedValue_trim]
      · simp [marked, ih]

theorem fieldPairs_received (request : Request) (userAgent : Option Text) :
    fieldPairs (request.received userAgent).fields = fieldPairs request.fields := by
  rw [Request.received, fieldPairs_withDefault (by decide), fieldPairs_withDefault (by decide)]
  cases userAgent with
  | none => exact fieldPairs_trim request.fields
  | some name =>
      rw [Option.elim_some, fieldPairs_withDefault (by decide)]
      exact fieldPairs_trim request.fields

/-- The standard fields are no `x-ms-` fields, and neither the signature nor a field of
the client is one of them. -/
theorem lineNames_apart : ∀ name ∈ lineNames, fieldMark.isPrefixOf name = false ∧
    name ∉ authorizationField :: dateField :: versionField :: Request.clientNames := by
  decide

theorem standardLines_congr {first second : Request} (method : first.method = second.method)
    (standard : ∀ name ∈ lineNames, first.fields.values name = second.fields.values name) :
    standardLines first = standardLines second := by
  have text : ∀ name ∈ lineNames, first.fields.text name = second.fields.text name := by
    intro name member
    rw [Fields.text, Fields.text?, Fields.first?, standard name member]
    rfl
  simp only [lineNames, standardNames, List.forall_mem_cons] at text
  obtain ⟨length, encoding, language, digest, type, modified, tagged, untagged, unmodified,
    range, -⟩ := text
  simp only [standardLines, signedLength, method, length, encoding, language, digest, type,
    modified, tagged, untagged, unmodified, range]

/-- The text that is signed depends on nothing else. -/
theorem stringToSign_congr {first second : Request} (accountName : Text)
    (method : first.method = second.method)
    (standard : ∀ name ∈ lineNames, first.fields.values name = second.fields.values name)
    (marked : fieldLines first.fields = fieldLines second.fields)
    (path : first.url.path = second.url.path) (query : first.url.query = second.url.query) :
    stringToSign accountName first = stringToSign accountName second := by
  have resources : resource accountName first.url = resource accountName second.url := by
    simp only [resource, Url.pathText, queryLines, queryPairs, Url.queryPairs, path, query]
  rw [stringToSign, stringToSign, standardLines_congr method standard, resources, marked]

end Canonical

open Canonical

/-- No value of a standard field that is signed has blanks around it. -/
def Request.IsSettled (request : Request) : Prop :=
  ∀ name ∈ lineNames, ∀ value ∈ request.fields.values name, Text.trimBy isFieldBlank value = value

/-- What a field of an operation's request is: it is not signed, or signed without blanks,
or has none. -/
inductive Field.IsSettled (field : Field) : Prop where
  | authorization (name : field.name = authorizationField)
  | marked (mark : fieldMark.isPrefixOf field.name = true)
  | length (name : field.name = "content-length")
      (figures : ∀ byte ∈ field.value, isFieldBlank byte = false)

theorem Request.isSettled_of_fields {request : Request}
    (settled : ∀ field ∈ request.fields, field.IsSettled) : request.IsSettled := by
  intro name member value given
  obtain ⟨field, kept, rfl⟩ := List.mem_map.mp given
  obtain ⟨present, same⟩ := List.mem_filter.mp kept
  rw [← eq_of_beq same] at member
  obtain ⟨unmarked, others⟩ := lineNames_apart field.name member
  cases settled field present with
  | authorization name => exact absurd (name ▸ List.mem_cons_self) others
  | marked mark => exact absurd (mark.symm.trans unmarked) (by decide)
  | length _ figures => exact Text.trimBy_of_none figures

/-- What was received, as a request for a given URL. -/
def Received.asRequest (received : Received) (url : Url) : Request :=
  { method := received.method, url, fields := received.fields, body := some received.body }

/-- The request arrived for the URL with one date, one version, and one authorization,
which is the one that its own text to sign gives. -/
structure Received.IsSigned (received : Received) (url : Url) (credential : Credential) :
    Prop where
  target : received.url = url.toText
  date : ∃ value, received.fields.values dateField = [value]
  version : ∃ value, received.fields.values versionField = [value]
  authorization : received.fields.values authorizationField =
    [Text.Utf8.encode ((received.asRequest url).authorization credential)]

/-- The request that arrives has the same text to sign as before its signature was added. -/
theorem Request.stringToSign_received {request : Request} (settled : request.IsSettled)
    (accountName : Text) (signature : Bytes) (userAgent : Option Text) {url : Url}
    (path : url.path = request.url.path) (query : url.query = request.url.query) :
    stringToSign accountName
        (((request.setField authorizationField signature).received userAgent).asRequest url) =
      stringToSign accountName request := by
  apply stringToSign_congr
  · rfl
  · intro name member
    have others := (lineNames_apart name member).2
    simp only [List.mem_cons, not_or] at others
    obtain ⟨noSignature, -, -, own⟩ := others
    -- Standard fields are signed with their blanks, so nothing may have been trimmed here.
    have same : (request.fields.values name).map (Text.trimBy isFieldBlank) =
        (request.fields.values name).map id := List.map_congr_left (settled name member)
    rw [Received.asRequest, values_received _ _ own, setField,
      Fields.values_set_of_ne _ noSignature, same, List.map_id]
  · rw [Received.asRequest, fieldLines, fieldPairs_received, setField, fieldPairs_set (by decide),
      fieldLines]
  · exact path
  · exact query

namespace Request

def signature (request : Request) (credential : Credential) : Bytes :=
  Text.Utf8.encode (request.authorization credential)

theorem eq_of_authorize {request signed : Request} {credential : Credential} {now : Instant}
    (success : request.authorize credential now = .ok signed) :
    signed = (request.stamped now).setField authorizationField
      ((request.stamped now).signature credential) := by
  rw [authorize] at success
  split at success
  · cases success
  · rename_i date read
    obtain rfl := Instant.eq_of_dated read
    simp only [fieldValue] at success
    split at success
    · cases success
    · rename_i value valid
      split at valid
      · cases valid
        cases success
        rfl
      · cases valid

theorem IsSettled.stamped {request : Request} (settled : request.IsSettled) (now : Instant) :
    (request.stamped now).IsSettled := by
  intro name member
  have others := (lineNames_apart name member).2
  simp only [List.mem_cons, not_or] at others
  obtain ⟨-, noDate, noVersion, -⟩ := others
  rw [Request.stamped, setField, setField, Fields.values_set_of_ne _ noVersion,
    Fields.values_set_of_ne _ noDate]
  exact settled name member

theorem sign_visible {credential : Credential} {text : Text} {c : Char}
    (member : c ∈ credential.sign text) : 33 ≤ c.toNat ∧ c.toNat ≤ 126 := by
  rw [Credential.sign] at member
  exact Base64.mem_encodeText member

/-- The name of the account decides whether the value can be sent. -/
theorem isValue_encode_authorization (accountName : Text) {digest : Text}
    (visible : ∀ c ∈ digest, 33 ≤ c.toNat ∧ c.toNat ≤ 126) :
    Field.isValue (Text.Utf8.encode ("SharedKey " ++ accountName ++ ':' :: digest)) =
      Field.isValue (Text.Utf8.encode accountName) := by
  have scheme : (Text.Utf8.encode "SharedKey ".toList).all Field.isValueByte = true := by decide
  have behind : (Text.Utf8.encode (':' :: digest)).all Field.isValueByte = true := by
    apply Field.isValue_of_printable
    refine List.forall_mem_cons.mpr ⟨by decide, fun c member => ?_⟩
    have bounds := visible c member
    omega
  rw [Text.Utf8.encode_append, Text.Utf8.encode_append, Field.isValue, List.all_append,
    List.all_append, scheme, behind, Bool.true_and, Bool.and_true, Field.isValue]

theorem isValue_signature (request : Request) (credential : Credential) :
    Field.isValue (request.signature credential) =
      Field.isValue (Text.Utf8.encode credential.accountName) :=
  isValue_encode_authorization credential.accountName fun _ => sign_visible

theorem authorize_of_named {credential : Credential}
    (named : Field.isValue (Text.Utf8.encode credential.accountName) = true) {now : Instant}
    (date : now.IsDate) (request : Request) :
    request.authorize credential now =
      .ok ((request.stamped now).setField authorizationField
        ((request.stamped now).signature credential)) := by
  have valid := (isValue_signature (request.stamped now) credential).trans named
  rw [signature] at valid
  simp only [authorize, Instant.dated_of_isDate date, fieldValue, if_pos valid]
  rfl

theorem authorize_of_unnamed {credential : Credential}
    (unnamed : ¬ Field.isValue (Text.Utf8.encode credential.accountName) = true) {now : Instant}
    (date : now.IsDate) (request : Request) :
    request.authorize credential now =
      .error (.error (.input (.malformedValue
        ((request.stamped now).authorization credential)))) := by
  have invalid := isValue_signature (request.stamped now) credential
  rw [← invalid, signature] at unnamed
  simp only [authorize, Instant.dated_of_isDate date, fieldValue, if_neg unnamed]

theorem authorize_undated {now : Instant} (noDate : ¬ now.IsDate) (request : Request)
    (credential : Credential) :
    ∃ message, request.authorize credential now = .error (.stopped message) := by
  obtain ⟨fault, stopped⟩ := Instant.dated_of_not_isDate noDate
  exact ⟨fault.message, by simp only [authorize, stopped]⟩

theorem named_of_authorize {request signed : Request} {credential : Credential} {now : Instant}
    (success : request.authorize credential now = .ok signed) :
    now.IsDate ∧ Field.isValue (Text.Utf8.encode credential.accountName) = true := by
  by_cases date : now.IsDate
  · refine ⟨date, ?_⟩
    rw [← isValue_signature (request.stamped now) credential, signature]
    simp only [authorize, Instant.dated_of_isDate date, fieldValue] at success
    by_cases valid : Field.isValue
        (Text.Utf8.encode ((request.stamped now).authorization credential)) = true
    · exact valid
    · rw [if_neg valid] at success
      cases success
  · obtain ⟨message, stopped⟩ := authorize_undated date request credential
    rw [stopped] at success
    cases success

/-- The name of the scheme stands in front and a digest behind, so there are no blanks
around the value. -/
theorem trim_encode_authorization (accountName : Text) {digest : Text}
    (visible : ∀ c ∈ digest, 33 ≤ c.toNat ∧ c.toNat ≤ 126) :
    Text.trimBy isFieldBlank
        (Text.Utf8.encode ("SharedKey " ++ accountName ++ ':' :: digest)) =
      Text.Utf8.encode ("SharedKey " ++ accountName ++ ':' :: digest) := by
  have visibleEnd : ∀ c ∈ ':' :: digest, 33 ≤ c.toNat ∧ c.toNat ≤ 126 :=
    List.forall_mem_cons.mpr ⟨by decide, visible⟩
  have scheme : Text.Utf8.encode "SharedKey ".toList =
      Text.Utf8.encode "SharedKey".toList ++ [32] := by decide
  have schemeVisible : ∀ byte ∈ Text.Utf8.encode "SharedKey".toList, isFieldBlank byte = false :=
    isFieldBlank_of_visible (Text.forall_of_all (by decide))
  simp only [Text.Utf8.encode_append, scheme, List.append_assoc]
  rw [← List.append_assoc [32]]
  exact Text.trimBy_between schemeVisible (by decide) (isFieldBlank_of_visible visibleEnd)
    (List.append_ne_nil_of_left_ne_nil (by decide) _) _

theorem trim_signature (request : Request) (credential : Credential) :
    Text.trimBy isFieldBlank (request.signature credential) = request.signature credential :=
  trim_encode_authorization credential.accountName fun _ => sign_visible

theorem signature_congr {first second : Request} {credential : Credential}
    (same : stringToSign credential.accountName first =
      stringToSign credential.accountName second) :
    first.signature credential = second.signature credential := by
  unfold signature authorization
  rw [same]

theorem values_received_setField (request : Request) (userAgent : Option Text) {name : Text}
    (own : name ∉ clientNames) (value : Bytes) :
    ((request.setField name value).received userAgent).fields.values name =
      [Text.trimBy isFieldBlank value] := by
  rw [values_received _ _ own, setField, Fields.values_set_self, List.map_singleton]

theorem values_received_setField_of_ne (request : Request) (userAgent : Option Text)
    {name sought : Text} (own : sought ∉ clientNames) (different : sought ≠ name)
    (value : Bytes) :
    ((request.setField name value).received userAgent).fields.values sought =
      (request.received userAgent).fields.values sought := by
  rw [values_received _ _ own, values_received _ _ own, setField,
    Fields.values_set_of_ne _ different]

/-- Whoever receives an authorized request can verify its signature. -/
theorem received_isSigned {request signed : Request} {credential : Credential} {now : Instant}
    (success : request.authorize credential now = .ok signed) (settled : request.IsSettled)
    (userAgent : Option Text) :
    (signed.received userAgent).IsSigned signed.url.withoutUserInfo.withoutFragment
      credential := by
  obtain rfl := eq_of_authorize success
  have own : dateField ∉ clientNames ∧ versionField ∉ clientNames ∧
      authorizationField ∉ clientNames := by decide
  constructor
  · rfl
  · have date := values_received_setField request userAgent own.1 (Text.asciiBytes now.httpDate)
    refine ⟨_, Eq.trans ?_ date⟩
    rw [stamped, values_received_setField_of_ne _ _ own.1 (by decide),
      values_received_setField_of_ne _ _ own.1 (by decide)]
  · have version := values_received_setField
      (request.setField dateField (Text.asciiBytes now.httpDate)) userAgent own.2.1
      (Text.asciiBytes serviceVersion)
    exact ⟨_, (values_received_setField_of_ne _ _ own.2.1 (by decide) _).trans version⟩
  · have arrived := values_received_setField (request.stamped now) userAgent own.2.2
      ((request.stamped now).signature credential)
    have same := signature_congr (stringToSign_received (settled.stamped now)
      credential.accountName ((request.stamped now).signature credential) userAgent
      (rfl : (request.stamped now).url.withoutUserInfo.withoutFragment.path = _) rfl)
    have trimmed := trim_signature (request.stamped now) credential
    exact arrived.trans (congrArg (fun value => [value]) (trimmed.trans same.symm))

end Request

end FileShare
