import FileShare.Proofs.Storage.Properties
import FileShare.Proofs.Storage.Outcome
import FileShare.Proofs.Url.Form

/-!
# What an operation asks for

The kind of an operation and its numbers can be read off its request: the kind off the method
and the query, a quota and a size off fields that metadata never writes, and the place of a
range off its text.  A range without an end is one that reads all that follows, and only one
that begins at zero may be left out.
-/

set_option autoImplicit false

namespace FileShare

inductive Demand where
  | createShare (quotaGib : UInt32)
  | deleteShare
  | createDirectory
  | deleteDirectory
  | createFile (size : UInt64)
  | uploadRange (offset : UInt64) (length : Nat)
  | download (offset : UInt64) (count : Option UInt64)
  | fileProperties
  | deleteFile
deriving DecidableEq, Repr

def Operation.demand : Operation -> Demand
  | .createShare _ _ quotaGib => .createShare quotaGib
  | .deleteShare _ => .deleteShare
  | .createDirectory .. => .createDirectory
  | .deleteDirectory _ => .deleteDirectory
  | .createFile _ size _ _ => .createFile size
  | .uploadRange _ offset data => .uploadRange offset data.length
  | .download _ offset count => .download offset count
  | .fileProperties _ => .fileProperties
  | .deleteFile _ => .deleteFile

/-! ## Numbers in texts -/

/-- The first offset and, unless nothing stands behind the dash, the length. -/
def readEnds (ends : Text × Option Text) : Nat × Option Nat :=
  match ends.2.getD [] with
  | [] => (Text.digitsValue ends.1, none)
  | last => (Text.digitsValue ends.1, some (Text.digitsValue last - Text.digitsValue ends.1 + 1))

/-- The first offset of a range and, unless the range is open, its length. -/
def readRange (range : Text) : Nat × Option Nat :=
  readEnds (Text.cut '-' ((Text.dropPrefix? "bytes=" range).getD []))

theorem readRange_of_ends (first : Nat) (last : Text) :
    readRange ("bytes=".toList ++ (Text.decimal first ++ '-' :: last)) =
      readEnds (Text.decimal first, some last) := by
  have free : '-' ∉ Text.decimal first := Text.not_mem_decimal (by decide) first
  rw [readRange, Text.dropPrefix?_append, Option.getD_some, Text.cut_append free]

theorem readEnds_closed {first length : Nat} (positive : length ≠ 0) :
    readEnds (Text.decimal first, some (Text.decimal (first + (length - 1)))) =
      (first, some length) := by
  have whole : first + (length - 1) - first + 1 = length := by omega
  have value := Text.digitsValue_decimal (first + (length - 1))
  have nonempty : Text.decimal (first + (length - 1)) ≠ [] := Nat.toDigits_ne_nil
  generalize Text.decimal (first + (length - 1)) = last at value nonempty
  cases last with
  | nil => exact absurd rfl nonempty
  | cons digit rest =>
      simp only [readEnds, Option.getD_some, Text.digitsValue_decimal, value, whole]

theorem rangeText_eq (first last : Nat) :
    rangeText first last = "bytes=".toList ++ (Text.decimal first ++ '-' :: Text.decimal last) :=
  List.append_assoc _ _ _

theorem openRangeText_eq (first : Nat) :
    openRangeText first = "bytes=".toList ++ (Text.decimal first ++ ['-']) :=
  List.append_assoc _ _ _

theorem readRange_rangeText {first length : Nat} (positive : length ≠ 0) :
    readRange (rangeText first (first + (length - 1))) = (first, some length) := by
  rw [rangeText_eq, readRange_of_ends, readEnds_closed positive]

theorem readRange_openRangeText (first : Nat) :
    readRange (openRangeText first) = (first, none) := by
  rw [openRangeText_eq, readRange_of_ends, readEnds]
  simp only [Option.getD_some, Text.digitsValue_decimal]

theorem rangeText_visible (first last : Nat) :
    ∀ c ∈ rangeText first last, 33 ≤ c.toNat ∧ c.toNat ≤ 126 := by
  rw [rangeText_eq]
  simp only [List.forall_mem_append, List.forall_mem_cons]
  exact ⟨Text.forall_of_all (by decide), Text.decimal_visible first, by decide,
    Text.decimal_visible last⟩

theorem openRangeText_visible (first : Nat) :
    ∀ c ∈ openRangeText first, 33 ≤ c.toNat ∧ c.toNat ≤ 126 := by
  rw [openRangeText_eq]
  simp only [List.forall_mem_append]
  exact ⟨Text.forall_of_all (by decide), Text.decimal_visible first,
    Text.forall_of_all (by decide)⟩

theorem rangeEnd_ok {offset length last : Nat} (fits : rangeEnd offset length = .ok last) :
    last = offset + (length - 1) := by
  rw [rangeEnd] at fits
  split at fits
  · exact (Except.ok.inj fits).symm
  · cases fits

/-! ## Reading a demand -/

namespace Demand

/-- The lines that the queries of operations are signed as. -/
def shareLine : Text := "\nrestype:share"

def directoryLine : Text := "\nrestype:directory"

def rangeLine : Text := "\ncomp:range"

/-- The demand of a request with a method, the lines of its query, and the signed values of
the fields for a quota, a size and a range. -/
def read (method query : Text) (quota? size? range? : Option Text) : Demand :=
  let range := range?.elim (0, none) readRange
  if method = "GET" then .download (.ofNat range.1) (range.2.map .ofNat)
  else if method = "HEAD" then .fileProperties
  else if method = "PUT" then
    if query = shareLine then .createShare (.ofNat (quota?.elim 0 Text.digitsValue))
    else if query = directoryLine then .createDirectory
    else if query = rangeLine then .uploadRange (.ofNat range.1) (range.2.getD 0)
    else .createFile (.ofNat (size?.elim 0 Text.digitsValue))
  else if query = shareLine then .deleteShare
  else if query = directoryLine then .deleteDirectory
  else .deleteFile

end Demand

namespace Operation

variable {operation : Operation}

theorem queryPairs_asked (operation : Operation) :
    operation.asked.url.queryPairs =
      operation.url.queryPairs ++ operation.queryPair?.toList := by
  have begun : (Request.bare operation.method operation.url).url.queryPairs =
      operation.url.queryPairs := by
    have bare := congrArg Url.queryPairs (Request.bare_url operation.method operation.url)
    exact bare
  rw [asked]
  cases operation.queryPair? with
  | none => rw [Option.toList_none, List.append_nil, ← begun]
  | some pair => rw [Url.queryPairs_withPair, begun, Option.toList_some]

def queryLine (operation : Operation) : Text :=
  match operation.queryPair? with
  | none => []
  | some (name, value) => '\n' :: name ++ ':' :: value

theorem queryLines_asked (unqueried : operation.url.queryPairs = []) :
    Canonical.queryLines operation.asked.url = operation.queryLine := by
  rw [Canonical.queryLines, Canonical.queryPairs, operation.queryPairs_asked, unqueried]
  cases operation <;> rfl

/-- A field that tells a number; neither signing nor metadata writes one. -/
def figureNames : List Text := ["x-ms-share-quota", "x-ms-content-length", "x-ms-range"]

theorem figureNames_own : ∀ name ∈ figureNames,
    name ∉ [authorizationField, dateField, versionField, "content-length".toList] ∧
      Metadata.fieldMark.isPrefixOf name = false ∧
      Canonical.fieldMark.isPrefixOf name = true := by
  decide

theorem values_metadata (metadata : Option Metadata) {name : Text} (figure : name ∈ figureNames) :
    Fields.values ((metadataFields metadata).map Request.lowered) name = [] := by
  refine Fields.values_of_absent fun field member same => ?_
  have marked : Metadata.isField field = true := by
    obtain ⟨pair, place, rfl⟩ := List.mem_map.mp member
    cases metadata with
    | none => exact absurd place List.not_mem_nil
    | some pairs =>
        obtain ⟨entry, _, rfl⟩ := List.mem_map.mp place
        rfl
  rw [Metadata.isField, same, (figureNames_own name figure).2.1] at marked
  cases marked

theorem values_request {request : Request} (built : operation.request = .ok request)
    {pairs : List (Text × Bytes)} (given : operation.fields = .ok pairs) {name : Text}
    (unsigned : name ≠ authorizationField) :
    request.fields.values name = Fields.values (pairs.map Request.lowered) name := by
  obtain ⟨others, same, rfl⟩ := request_ok built
  obtain rfl := Except.ok.inj (same.symm.trans given)
  have before : Fields.values operation.asked.fields name = [] :=
    Fields.values_of_absent fun field member same =>
      unsigned (same ▸ asked_fields operation field member)
  rw [Fields.values_append, before, List.nil_append]

/-- What is read of the fields of a request that was announced and stamped. -/
theorem signedGroup_stamped (request : Request) (now : Instant) {name : Text}
    (figure : name ∈ figureNames) :
    Canonical.signedGroup? (request.announced.stamped now).fields name =
      Canonical.signedGroup? request.fields name := by
  have own := (figureNames_own name figure).1
  simp only [List.mem_cons, List.not_mem_nil, or_false, not_or] at own
  obtain ⟨-, noDate, noVersion, noLength⟩ := own
  have stamped : (request.announced.stamped now).fields.values name =
      request.announced.fields.values name := by
    rw [Request.stamped, Request.setField, Request.setField, Fields.values_set_of_ne _ noVersion,
      Fields.values_set_of_ne _ noDate]
  have announced : request.announced.fields.values name = request.fields.values name := by
    rw [Request.announced]
    split
    · exact Fields.values_set_of_ne _ noLength _
    · rfl
  rw [Canonical.signedGroup?, Canonical.signedGroup?, stamped, announced]

end Operation

theorem Canonical.signedValue_encode {text : Text}
    (visible : ∀ c ∈ text, 33 ≤ c.toNat ∧ c.toNat ≤ 126) :
    signedValue (Text.Utf8.encode text) = text := by
  have readable : Field.IsReadable text := by
    apply Field.isReadable_of_printable
    intro c member
    have bounds := visible c member
    omega
  have noBlank : ∀ c ∈ text, Text.isBlank c = false :=
    fun c member => Text.not_isBlank_of_visible (visible c member)
  rw [signedValue, Field.readText?_encode, if_pos readable, Option.getD_some, Text.trim,
    Text.trimBy_of_none noBlank]

theorem Canonical.signedGroup_of_values {fields : Fields} {name : Text} {text? : Option Text}
    (visible : ∀ text ∈ text?, ∀ c ∈ text, 33 ≤ c.toNat ∧ c.toNat ≤ 126)
    (values : fields.values name = (text?.map Text.Utf8.encode).toList) :
    signedGroup? fields name = text? := by
  rw [signedGroup?, values]
  cases text? with
  | none => rfl
  | some text => simp [signedValue_encode (visible text rfl)]

namespace Operation

variable {operation : Operation} {request : Request}

theorem quota_signed {share : Share} {metadata : Option Metadata} {quotaGib : UInt32}
    (built : (createShare share metadata quotaGib).request = .ok request) :
    Canonical.signedGroup? request.fields "x-ms-share-quota" =
      if quotaGib = 0 then none else some (Text.decimal quotaGib.toNat) := by
  have figure : "x-ms-share-quota".toList ∈ figureNames := by decide
  apply Canonical.signedGroup_of_values
  · intro text given
    split at given
    · cases given
    · cases given
      exact Text.decimal_visible _
  · rw [values_request built rfl (by decide), List.map_append, Fields.values_append,
      values_metadata metadata figure, List.append_nil]
    split
    · rfl
    · rfl

theorem size_signed {file : File} {size : UInt64} {headers : FileHeaders}
    {metadata : Option Metadata}
    (built : (createFile file size headers metadata).request = .ok request) :
    Canonical.signedGroup? request.fields "x-ms-content-length" =
      some (Text.decimal size.toNat) := by
  apply Canonical.signedGroup_of_values
  · intro text given
    cases given
    exact Text.decimal_visible _
  · have row : ("content-length".toList, some (Text.Utf8.encode (Text.decimal size.toNat))) ∈
        createdTable size headers := by
      simp [createdTable]
    exact createFile_values built row

theorem range_signed {range : Text} {others : List (Text × Bytes)}
    (built : operation.request = .ok request)
    (given : operation.fields = .ok (textField "x-ms-range" range :: others))
    (once : Fields.values (others.map Request.lowered) "x-ms-range" = [])
    (visible : ∀ c ∈ range, 33 ≤ c.toNat ∧ c.toNat ≤ 126) :
    Canonical.signedGroup? request.fields "x-ms-range" = some range := by
  apply Canonical.signedGroup_of_values
  · intro text same
    cases same
    exact visible
  · rw [values_request built given (by decide), List.map_cons, ← List.singleton_append,
      Fields.values_append, once, List.append_nil]
    rfl

theorem upload_signed {file : File} {offset : UInt64} {data : Bytes}
    (built : (uploadRange file offset data).request = .ok request) :
    data.length ≠ 0 ∧ Canonical.signedGroup? request.fields "x-ms-range" =
      some (rangeText offset.toNat (offset.toNat + (data.length - 1))) := by
  obtain ⟨pairs, given, -⟩ := request_ok built
  have same := given
  simp only [fields] at same
  split at same
  · cases same
  · rename_i full
    obtain ⟨last, fits, rest⟩ := ok_of_bind same
    obtain rfl := rangeEnd_ok fits
    cases rest
    exact ⟨by simpa using full, range_signed built given rfl (rangeText_visible _ _)⟩

theorem download_signed {file : File} {offset : UInt64} {count? : Option UInt64}
    (built : (download file offset count?).request = .ok request) :
    Canonical.signedGroup? request.fields "x-ms-range" =
      match count? with
      | some count => some (rangeText offset.toNat (offset.toNat + (count.toNat - 1)))
      | none => if offset = 0 then none else some (openRangeText offset.toNat) := by
  obtain ⟨pairs, given, -⟩ := request_ok built
  cases count? with
  | some count =>
      obtain ⟨last, fits, rest⟩ := ok_of_bind given
      obtain rfl := rangeEnd_ok fits
      cases rest
      exact range_signed built given rfl (rangeText_visible _ _)
  | none =>
      by_cases whole : offset = 0
      · have unsigned : "x-ms-range".toList ≠ authorizationField := by decide
        have none : (download file offset none).fields = .ok [] := by simp [fields, whole]
        have values := values_request built none unsigned
        simp only [Canonical.signedGroup?, if_pos whole]
        rw [values]
        rfl
      · have one : (download file offset none).fields =
            .ok [textField "x-ms-range" (openRangeText offset.toNat)] := by simp [fields, whole]
        simp only [if_neg whole]
        exact range_signed built one rfl (openRangeText_visible _)

/-- The demand of an operation is read off its request. -/
theorem demand_read (built : operation.request = .ok request)
    (busy : ¬ operation.ReadsNothing) :
    Demand.read operation.method operation.queryLine
        (Canonical.signedGroup? request.fields "x-ms-share-quota")
        (Canonical.signedGroup? request.fields "x-ms-content-length")
        (Canonical.signedGroup? request.fields "x-ms-range") =
      operation.demand := by
  cases operation with
  | createShare share metadata quotaGib =>
      rw [quota_signed built]
      have number : (if quotaGib = 0 then none else some (Text.decimal quotaGib.toNat)).elim 0
          Text.digitsValue = quotaGib.toNat := by
        by_cases unlimited : quotaGib = 0
        · simp [unlimited]
        · simp [unlimited, Text.digitsValue_decimal]
      exact congrArg Demand.createShare ((congrArg UInt32.ofNat number).trans UInt32.ofNat_toNat)
  | createFile file size headers metadata =>
      rw [size_signed built]
      have number : UInt64.ofNat (Text.digitsValue (Text.decimal size.toNat)) = size := by
        rw [Text.digitsValue_decimal, UInt64.ofNat_toNat]
      exact congrArg Demand.createFile number
  | uploadRange file offset data =>
      obtain ⟨full, range⟩ := upload_signed built
      have ends : readRange (rangeText offset.toNat (offset.toNat + (data.length - 1))) =
          (offset.toNat, some data.length) := readRange_rangeText full
      rw [range]
      show Demand.uploadRange (.ofNat (readRange _).1) ((readRange _).2.getD 0) = _
      rw [ends]
      exact congrArg (Demand.uploadRange · data.length) UInt64.ofNat_toNat
  | download file offset count? =>
      rw [download_signed built]
      show Demand.download (.ofNat (Option.elim _ (0, none) readRange).1)
        ((Option.elim _ (0, none) readRange).2.map .ofNat) = Demand.download offset count?
      cases count? with
      | some count =>
          have full : count.toNat ≠ 0 := by
            intro empty
            have none : count = 0 := UInt64.toNat_inj.mp empty
            exact busy ⟨file, offset, by rw [none]⟩
          simp only [Option.elim_some, readRange_rangeText full, Option.map_some,
            UInt64.ofNat_toNat]
      | none =>
          by_cases whole : offset = 0
          · simp [whole]
          · simp only [if_neg whole, Option.elim_some, readRange_openRangeText, Option.map_none,
              UInt64.ofNat_toNat]
  | deleteShare share => rfl
  | createDirectory directory metadata => rfl
  | deleteDirectory directory => rfl
  | fileProperties file => rfl
  | deleteFile file => rfl

end Operation

end FileShare
