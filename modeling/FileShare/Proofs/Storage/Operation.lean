import FileShare.Proofs.Signing.Authorize
import FileShare.Proofs.Storage.Pipeline
import FileShare.Proofs.Text.Decimal
import FileShare.Storage.Operation

/-!
# The requests of operations

The request of an operation goes to the URL of its handle, with a pair more in
its query, and bears the fields of the operation: an announced length, and names
that begin with `x-ms-`.  Running the operation sends it once or not at all.
-/

set_option autoImplicit false

namespace FileShare

namespace Request

/-- A field as it is added: its name is in small letters. -/
def lowered (pair : Text × Bytes) : Field := ⟨Text.asciiLower pair.1, pair.2⟩

theorem addField_ok {request built : Request} {name : Text} {value : Bytes}
    (success : request.addField name value = .ok built) :
    built = { request with fields := request.fields ++ [lowered (name, value)] } := by
  rw [addField] at success
  split at success
  · cases success
  · rename_i small valid
    split at success
    · cases success
      rw [Field.name?] at valid
      split at valid
      · cases valid
      · cases valid
        rfl
    · cases success

/-- Fields are added in their order, and nothing else changes. -/
theorem addFields_ok {pairs : List (Text × Bytes)} {request built : Request}
    (success : request.addFields pairs = .ok built) :
    built = { request with fields := request.fields ++ pairs.map lowered } := by
  induction pairs generalizing request with
  | nil =>
      cases success
      rw [List.map_nil, List.append_nil]
  | cons pair rest ih =>
      obtain ⟨name, value⟩ := pair
      rw [addFields] at success
      split at success
      · cases success
      · rename_i next added
        rw [ih success, addField_ok added, List.map_cons, List.append_assoc]
        rfl

/-- A request begins with the authorization that the user info of its URL asks for, or
with no field. -/
theorem bare_fields (method : Text) (url : Url) :
    ∀ field ∈ (bare method url).fields, field.name = authorizationField := by
  intro field member
  rw [bare] at member
  split at member
  · exact absurd member List.not_mem_nil
  · rw [List.mem_singleton.mp member]
    rfl

theorem bare_url (method : Text) (url : Url) :
    (bare method url).url.withoutUserInfo = url.withoutUserInfo := by
  rw [bare]
  split
  · rfl
  · rfl

end Request

namespace Operation

def arrivalUrl (operation : Operation) : Url :=
  let target :=
    match operation.queryPair? with
    | none => operation.url
    | some (name, value) => operation.url.withPair name value
  target.withoutUserInfo.withoutFragment

def Sends (pair : Text × Bytes) : Prop := (Request.lowered pair).IsSettled

theorem Sends.marked {pair : Text × Bytes}
    (mark : Canonical.fieldMark.isPrefixOf (Text.asciiLower pair.1) = true) : Sends pair :=
  Field.IsSettled.marked mark

theorem sends_decimal (n : Nat) : Sends (textField "content-length" (Text.decimal n)) :=
  Field.IsSettled.length (by rfl) (isFieldBlank_of_visible (Text.decimal_visible n))

theorem sends_metadata (metadata : Option Metadata) :
    ∀ pair ∈ metadataFields metadata, Sends pair := by
  intro pair member
  cases metadata with
  | none => exact absurd member List.not_mem_nil
  | some pairs =>
      obtain ⟨entry, _, rfl⟩ := List.mem_map.mp member
      exact .marked rfl

theorem sends_inherited (attributes : Text) :
    ∀ pair ∈ inheritedFields attributes, Sends pair := by
  simp only [inheritedFields, List.forall_mem_cons]
  exact ⟨.marked rfl, .marked rfl, .marked rfl, .marked rfl,
    List.forall_mem_nil _⟩

theorem sends_headers (headers : FileHeaders) : ∀ pair ∈ headers.toFields, Sends pair := by
  intro pair member
  simp only [FileHeaders.toFields, List.mem_append, Option.mem_toList, Option.map_eq_some_iff]
    at member
  rcases member with ((((⟨value, _, rfl⟩ | ⟨value, _, rfl⟩) | ⟨value, _, rfl⟩) |
    ⟨value, _, rfl⟩) | ⟨value, _, rfl⟩) | ⟨value, _, rfl⟩
  · exact .marked rfl
  · exact .marked rfl
  · exact .marked rfl
  · exact .marked rfl
  · exact .marked rfl
  · exact .marked rfl

theorem fields_sends {operation : Operation} {pairs : List (Text × Bytes)}
    (success : operation.fields = .ok pairs) : ∀ pair ∈ pairs, Sends pair := by
  have one (name value : Text) (mark : Sends (textField name value)) :
      ∀ pair ∈ [textField name value], Sends pair := by
    intro pair member
    rw [List.mem_singleton.mp member]
    exact mark
  cases operation with
  | createShare share metadata quotaGib =>
      obtain rfl := Except.ok.inj success
      refine List.forall_mem_append.mpr ⟨?_, sends_metadata metadata⟩
      split
      · exact List.forall_mem_nil _
      · exact one _ _ (.marked rfl)
  | deleteShare share =>
      cases success
      exact one _ _ (.marked rfl)
  | createDirectory directory metadata =>
      simp only [fields] at success
      split at success
      · cases success
      · obtain rfl := Except.ok.inj success
        exact List.forall_mem_append.mpr ⟨sends_inherited _, sends_metadata metadata⟩
  | deleteDirectory directory =>
      cases success
      exact List.forall_mem_nil _
  | createFile file size headers metadata =>
      obtain rfl := Except.ok.inj success
      simp only [List.forall_mem_append, List.forall_mem_cons]
      exact ⟨⟨⟨⟨.marked rfl, .marked rfl, List.forall_mem_nil _⟩,
        sends_inherited _⟩, sends_headers headers⟩, sends_metadata metadata⟩
  | uploadRange file offset data =>
      simp only [fields] at success
      split at success
      · cases success
      · obtain ⟨last, _, rest⟩ := ok_of_bind success
        cases rest
        simp only [List.forall_mem_cons]
        exact ⟨.marked rfl, .marked rfl, sends_decimal _,
          List.forall_mem_nil _⟩
  | download file offset count =>
      cases count with
      | some count =>
          obtain ⟨last, _, rest⟩ := ok_of_bind success
          cases rest
          exact one _ _ (.marked rfl)
      | none =>
          cases success
          intro pair member
          split at member
          · exact absurd member List.not_mem_nil
          · exact one _ _ (.marked rfl) pair member
  | fileProperties file =>
      cases success
      exact List.forall_mem_nil _
  | deleteFile file =>
      cases success
      exact List.forall_mem_nil _

/-- The request of the operation before its fields are added. -/
def asked (operation : Operation) : Request :=
  let begun := Request.bare operation.method operation.url
  match operation.queryPair? with
  | none => begun
  | some (name, value) => { begun with url := begun.url.withPair name value }

theorem asked_url (operation : Operation) :
    operation.asked.url.withoutUserInfo.withoutFragment = operation.arrivalUrl := by
  have url := Request.bare_url operation.method operation.url
  rw [asked, arrivalUrl]
  cases operation.queryPair? with
  | none => exact congrArg Url.withoutFragment url
  | some pair =>
      -- The pair goes into the query, which the user info does not touch.
      have paired := congrArg (fun url : Url => (url.withPair pair.1 pair.2).withoutFragment) url
      exact paired

theorem asked_fields (operation : Operation) :
    ∀ field ∈ operation.asked.fields, field.name = authorizationField := by
  have bare := Request.bare_fields operation.method operation.url
  rw [asked]
  cases operation.queryPair? with
  | none => exact bare
  | some pair => exact bare

theorem request_eq (operation : Operation) :
    operation.request =
      match operation.fields with
      | .error fault => .error (.input fault)
      | .ok pairs =>
          if operation.url.hasHost then
            match operation.asked.addFields pairs with
            | .error fault => .error (.transport fault)
            | .ok built => .ok { built with body := operation.body? }
          else .error (.transport (.unusableUrl operation.url.toText)) := by
  simp only [Operation.request, Request.start]
  cases operation.fields with
  | error fault => rfl
  | ok pairs =>
      cases operation.url.hasHost with
      | false => rfl
      | true => rfl

/-- The request of an operation has the fields of the operation behind the authorization
that the user info of the URL asks for. -/
theorem request_ok {operation : Operation} {request : Request}
    (success : operation.request = .ok request) :
    ∃ pairs, operation.fields = .ok pairs ∧
      request =
        { operation.asked with
          fields := operation.asked.fields ++ pairs.map Request.lowered
          body := operation.body? } := by
  rw [request_eq] at success
  split at success
  · cases success
  · rename_i pairs given
    split at success
    · split at success
      · cases success
      · rename_i built added
        obtain rfl := Except.ok.inj success
        exact ⟨pairs, given, by rw [Request.addFields_ok added]⟩
    · cases success

/-- The standard fields of a request that is ready to be signed have no blanks around
their values. -/
theorem request_isSettled {operation : Operation} {request : Request}
    (success : operation.request = .ok request) : request.announced.IsSettled := by
  obtain ⟨pairs, given, rfl⟩ := request_ok success
  have settled : ∀ field ∈ operation.asked.fields ++ pairs.map Request.lowered,
      field.IsSettled := by
    intro field member
    rcases List.mem_append.mp member with begun | added
    · exact .authorization (asked_fields operation field begun)
    · obtain ⟨pair, place, rfl⟩ := List.mem_map.mp added
      exact fields_sends given pair place
  apply Request.isSettled_of_fields
  rw [Request.announced]
  split
  · intro field member
    rcases List.mem_append.mp member with kept | zero
    · exact settled field (List.mem_filter.mp kept).1
    · rw [List.mem_singleton.mp zero]
      exact .length rfl (Text.forall_of_all (by decide))
  · exact settled

/-- What the peer has received by the end: nothing new at all, or the request of the operation
once, as it was prepared. -/
def Delivers (operation : Operation) (before after : Session) : Prop :=
  after.wire = before.wire ∨
    ∃ request prepared, operation.request = .ok request ∧
      operation.pipeline.prepare before.now request = .ok prepared ∧
      after.received = before.received ++ [prepared.received operation.pipeline.userAgent]

/-- A request that is built goes into the pipeline, and what comes back is the result. -/
theorem run_sending {operation : Operation} {request : Request} (busy : operation.isIdle = false)
    (built : operation.request = .ok request) (session : Session) :
    operation.run session =
      ((operation.pipeline.send request operation.expected session).1.map some,
        (operation.pipeline.send request operation.expected session).2) := by
  rw [run, busy, built]
  rcases sent : operation.pipeline.send request operation.expected session with
    ⟨failure | response, after⟩
  · simp only [Bool.false_eq_true, if_false, Run.bind_apply, sent]
    rfl
  · simp only [Bool.false_eq_true, if_false, Run.bind_apply, sent]
    rfl

/-- An operation leaves everything as it is and does not stop, or it has a request that goes
into the pipeline. -/
theorem run_rests_or_sends (operation : Operation) (session : Session) :
    ((operation.run session).2 = session ∧
        ∀ message, (operation.run session).1 ≠ .error (.stopped message)) ∨
      ∃ request, operation.request = .ok request ∧
        operation.run session =
          ((operation.pipeline.send request operation.expected session).1.map some,
            (operation.pipeline.send request operation.expected session).2) := by
  cases idle : operation.isIdle with
  | true => exact Or.inl (by simp [run, idle])
  | false =>
      cases built : operation.request with
      | error error => exact Or.inl (by simp [run, idle, built])
      | ok request => exact Or.inr ⟨request, rfl, run_sending idle built session⟩

theorem run_delivers (operation : Operation) (session : Session) :
    operation.Delivers session (operation.run session).2 := by
  rcases operation.run_rests_or_sends session with ⟨rests, -⟩ | ⟨request, built, sends⟩
  · exact Or.inl (congrArg Session.wire rests)
  · rw [sends]
    rcases operation.pipeline.send_received request operation.expected session with
      nothing | ⟨prepared, success, once⟩
    · exact Or.inl nothing
    · exact Or.inr ⟨request, prepared, built, success, once⟩

/-- The operation as it is offered for its handle, but for its result. -/
def perform : Operation -> Run Failure Unit
  | .createShare share metadata quotaGib => (fun _ => ()) <$> share.create metadata quotaGib
  | .deleteShare share => (fun _ => ()) <$> share.delete
  | .createDirectory directory metadata => (fun _ => ()) <$> directory.create metadata
  | .deleteDirectory directory => (fun _ => ()) <$> directory.delete
  | .createFile file size headers metadata =>
      (fun _ => ()) <$> file.create size headers metadata
  | .uploadRange file offset data => (fun _ => ()) <$> file.uploadRange offset data
  | .download file offset count => (fun _ => ()) <$> file.download offset count
  | .fileProperties file => (fun _ => ()) <$> file.properties
  | .deleteFile file => (fun _ => ()) <$> file.delete

theorem runCreated_wire (operation : Operation) (session : Session) :
    (operation.runCreated session).2.wire = (operation.run session).2.wire :=
  Run.kept_bind Session.wire (fun _ _ => rfl) _ _

theorem runDeleted_wire (operation : Operation) (session : Session) :
    (operation.runDeleted session).2.wire = (operation.run session).2.wire :=
  Run.kept_bind Session.wire (fun _ _ => rfl) _ _

end Operation

theorem Share.create_wire (share : Share) (metadata : Option Metadata) (quotaGib : UInt32)
    (session : Session) :
    (share.create metadata quotaGib session).2.wire =
      ((Operation.createShare share metadata quotaGib).run session).2.wire := by
  rw [create, Run.kept_bind Session.wire fun _ _ => rfl]
  exact Operation.runCreated_wire _ _

theorem Share.delete_wire (share : Share) (session : Session) :
    (share.delete session).2.wire = ((Operation.deleteShare share).run session).2.wire := by
  rw [delete, Run.kept_bind Session.wire fun _ _ => rfl]
  exact Operation.runDeleted_wire _ _

theorem File.download_wire (file : File) (offset : UInt64) (count : Option UInt64)
    (session : Session) :
    (file.download offset count session).2.wire =
      ((Operation.download file offset count).run session).2.wire := by
  refine Run.kept_bind Session.wire (fun response after => ?_) _ _
  cases response with
  | none => rfl
  | some response =>
      cases body : response.body with
      | none => simp [body]
      | some bytes => simp [body]

theorem File.download_received (file : File) (offset : UInt64) (count : Option UInt64)
    (session : Session) :
    (file.download offset count session).2.received =
      ((Operation.download file offset count).run session).2.received :=
  congrArg Prod.fst (file.download_wire offset count session)

namespace Operation

/-- Nothing is sent but by running the operation. -/
theorem perform_wire (operation : Operation) (session : Session) :
    (operation.perform session).2.wire = (operation.run session).2.wire := by
  cases operation with
  | createShare share metadata quotaGib =>
      rw [perform, Run.kept_map Session.wire, Share.create_wire]
  | deleteShare share => rw [perform, Run.kept_map Session.wire, Share.delete_wire]
  | createDirectory directory metadata =>
      rw [perform, Run.kept_map Session.wire, Directory.create, runCreated_wire]
  | deleteDirectory directory =>
      rw [perform, Run.kept_map Session.wire, Directory.delete, runDeleted_wire]
  | createFile file size headers metadata =>
      rw [perform, Run.kept_map Session.wire, File.create, runCreated_wire]
  | uploadRange file offset data =>
      rw [perform, Run.kept_map Session.wire, File.uploadRange, runCreated_wire]
  | download file offset count =>
      rw [perform, Run.kept_map Session.wire, File.download_wire]
  | fileProperties file =>
      rw [perform, Run.kept_map Session.wire, File.properties,
        Run.kept_bind Session.wire fun _ _ => rfl]
  | deleteFile file => rw [perform, Run.kept_map Session.wire, File.delete, runDeleted_wire]

end Operation

end FileShare
