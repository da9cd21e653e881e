import FileShare.Proofs.Signing.Renewal
import FileShare.Proofs.Storage.Binding
import FileShare.Proofs.Url.Host

/-!
# Requests that can be built

The building of a request ends at the first name or value that cannot be sent, and whatever
stands behind it does not matter.  So the request of an operation has all its fields, or there
is none.  Once built, it is sent where the client can use its URL and the clock shows a date,
and its fields arrive as they were given, but for blanks around their values: announcing and
authorizing write other names.
-/

set_option autoImplicit false

namespace FileShare

/-- Whether the name and the value can stand in a request. -/
def Field.CanStand (pair : Text × Bytes) : Prop :=
  name? pair.1 ≠ none ∧ isValue pair.2 = true

instance (pair : Text × Bytes) : Decidable (Field.CanStand pair) :=
  inferInstanceAs (Decidable (_ ∧ _))

theorem Field.canStand_textField {name value : Text} (named : name? name ≠ none)
    (visible : ∀ c ∈ value, 33 ≤ c.toNat ∧ c.toNat ≤ 126) : CanStand (textField name value) := by
  refine ⟨named, isValue_of_printable fun c member => ?_⟩
  have bounds := visible c member
  omega

namespace Request

theorem addField_eq (request : Request) (pair : Text × Bytes) :
    request.addField pair.1 pair.2 =
      if Field.CanStand pair then .ok { request with fields := request.fields ++ [lowered pair] }
      else .error .malformedField := by
  obtain ⟨name, value⟩ := pair
  cases named : Field.name? name with
  | none =>
      rw [if_neg fun stands => stands.1 named]
      simp only [addField, named]
  | some small =>
      by_cases sendable : Field.isValue value = true
      · have added : request.addField name value =
            .ok { request with fields := request.fields.add small value } := by
          simp only [addField, named, if_pos sendable]
        rw [if_pos ⟨by simp [named], sendable⟩, added, addField_ok added]
      · rw [if_neg fun stands => sendable stands.2]
        simp only [addField, named, if_neg sendable]

/-- All fields are added, or none that counts. -/
theorem addFields_eq (request : Request) (pairs : List (Text × Bytes)) :
    request.addFields pairs =
      if ∀ pair ∈ pairs, Field.CanStand pair then
        .ok { request with fields := request.fields ++ pairs.map lowered }
      else .error .malformedField := by
  induction pairs generalizing request with
  | nil =>
      rw [if_pos (List.forall_mem_nil _), List.map_nil, List.append_nil]
      rfl
  | cons pair rest ih =>
      have first := request.addField_eq pair
      obtain ⟨name, value⟩ := pair
      simp only [addFields, List.forall_mem_cons]
      by_cases stands : Field.CanStand (name, value)
      · rw [if_pos stands] at first
        simp only [first, stands, true_and, ih, List.map_cons, List.append_assoc,
          List.singleton_append]
      · rw [if_neg stands] at first
        simp only [first, stands, false_and, if_false]

end Request

namespace Operation

variable {operation : Operation} {pairs : List (Text × Bytes)}

/-- The request of an operation on a URL with a host has all fields of the operation, or it
cannot be built. -/
theorem request_of_fields (given : operation.fields = .ok pairs)
    (host : operation.url.hasHost = true) :
    operation.request =
      if ∀ pair ∈ pairs, Field.CanStand pair then
        .ok { operation.asked with
          fields := operation.asked.fields ++ pairs.map Request.lowered
          body := operation.body? }
      else .error (.transport .malformedField) := by
  rw [request_eq, given]
  simp only [host, if_true, Request.addFields_eq]
  by_cases stand : ∀ pair ∈ pairs, Field.CanStand pair
  · simp only [if_pos stand]
  · simp only [if_neg stand]

theorem request_refused {fault : InputFault} (refused : operation.fields = .error fault) :
    operation.request = .error (.input fault) := by
  rw [Operation.request, refused]

theorem buildable_iff {fits : Prop} (host : operation.url.hasHost = true)
    (stand : ∀ pair ∈ pairs, Field.CanStand pair) (given : fits → operation.fields = .ok pairs)
    (refused : ¬ fits → ∃ fault, operation.fields = .error fault) :
    (∃ request, operation.request = .ok request) ↔ fits := by
  constructor
  · rintro ⟨request, built⟩
    by_cases fit : fits
    · exact fit
    · obtain ⟨fault, unfit⟩ := refused fit
      rw [request_refused unfit] at built
      cases built
  · intro fit
    exact ⟨_, (request_of_fields (given fit) host).trans (if_pos stand)⟩

/-- An operation without a request has no effect at all. -/
theorem run_unbuilt {error : StorageError} (busy : operation.isIdle = false)
    (unbuilt : operation.request = .error error) (before : Session) :
    operation.run before = (.error (.error error), before) := by
  simp [run, busy, unbuilt]

end Operation

/-! ## What is sent -/

theorem Url.child_target (url : Url) (name : Text) :
    (url.child name).scheme = url.scheme ∧ (url.child name).host = url.host := by
  rw [child]
  split
  · exact ⟨rfl, rfl⟩
  · exact ⟨rfl, rfl⟩

theorem Service.Derives.target_eq {service : Service} {names : List Text} {handle : Handle}
    (derives : service.Derives names handle) :
    handle.url.scheme = service.url.scheme ∧ handle.url.host = service.url.host := by
  apply derives.url_induction fun url =>
    url.scheme = service.url.scheme ∧ url.host = service.url.host
  · exact ⟨rfl, rfl⟩
  · rintro url name ⟨scheme, host⟩
    obtain ⟨sameScheme, sameHost⟩ := url.child_target name
    exact ⟨sameScheme.trans scheme, sameHost.trans host⟩

/-- Every handle of a web service has a host to ask. -/
theorem Service.Derives.hasHost {endpoint : Text} {service : Service}
    (parsed : Url.parse endpoint = .ok service.url) (web : Url.IsWebScheme service.url.scheme)
    {names : List Text} {handle : Handle} (derives : service.Derives names handle) :
    handle.url.hasHost = true := by
  have host := Url.hasHost_of_web parsed web
  rw [Url.hasHost] at host ⊢
  rw [derives.target_eq.2]
  exact host

/-- The handle is at a plain web server, and its credential can stand in a request. -/
structure Handle.CanAsk (handle : Handle) (credential : Credential) : Prop where
  signs : handle.pipeline.credential = some credential
  named : Field.isValue (Text.Utf8.encode credential.accountName) = true
  plain : handle.url.scheme = "http"
  host : handle.url.hasHost = true

theorem Service.Derives.canAsk {endpoint : Text} {service : Service} {credential : Credential}
    (parsed : Url.parse endpoint = .ok service.url) (plain : service.url.scheme = "http")
    (signs : service.pipeline.credential = some credential)
    (named : Field.isValue (Text.Utf8.encode credential.accountName) = true)
    {names : List Text} {handle : Handle} (derives : service.Derives names handle) :
    handle.CanAsk credential :=
  ⟨(congrArg Pipeline.credential derives.pipeline_eq).trans signs, named,
    derives.target_eq.1.trans plain, derives.hasHost parsed (Or.inl plain)⟩

namespace Operation

/-- The client can use the URL that the operation asks for, and the clock shows a date. -/
structure IsReady (operation : Operation) (now : Instant) : Prop where
  usable : Request.isUsableUrl operation.asked.url = true
  date : now.IsDate

/-- At a peer that is there, it takes no more than that to send what could be built. -/
theorem run_sends_iff_ready {operation : Operation} {credential : Credential} {before : Session}
    (asks : operation.handle.CanAsk credential) (there : before.peer ≠ .unreachable)
    (busy : operation.isIdle = false) :
    (∃ received, (operation.run before).2.received = before.received ++ [received]) ↔
      (∃ request, operation.request = .ok request) ∧ operation.IsReady before.now := by
  obtain ⟨signs, named, plain, -⟩ := asks
  rw [operation.pipeline_handle] at signs
  rw [operation.url_handle] at plain
  constructor
  · rintro ⟨received, sent⟩
    obtain ⟨prepared, prepares, ⟨usable, -⟩, -⟩ := (run_sends_iff busy).mp sent
    rw [prepares.target.1] at usable
    obtain ⟨request, built, success⟩ := prepares
    rw [Pipeline.prepare, signs] at success
    exact ⟨⟨request, built⟩, usable, (Request.named_of_authorize success).1⟩
  · rintro ⟨⟨request, built⟩, usable, date⟩
    obtain ⟨prepared, prepares⟩ := prepares_of_named signs named built date
    have url := prepares.target.1
    exact ⟨_, (run_sends_iff busy).mpr ⟨prepared, prepares, ⟨url ▸ usable, there⟩, rfl⟩⟩

end Operation

/-! ## What arrives of the fields -/

theorem Pipeline.prepare_sameApart {pipeline : Pipeline} {now : Instant}
    {request prepared : Request} (success : pipeline.prepare now request = .ok prepared) :
    prepared.SameApart (· ∈ Request.stampNames) request.announced := by
  rw [prepare] at success
  split at success
  · cases success
    exact .refl _ _
  · exact (Request.isAuthorized success).rest

/-- A length is announced for a request that has no body of its own. -/
theorem Request.announced_values (request : Request) {name : Text}
    (unannounced : name = "content-length".toList → request.body.isSome = true) :
    request.announced.fields.values name = request.fields.values name := by
  rw [announced]
  split
  · rename_i empty
    have bodiless : request.body.isNone = true := (Bool.and_eq_true_iff.mp empty).1
    have other : name ≠ "content-length".toList := by
      intro own
      have announces := unannounced own
      rw [Option.isNone_iff_eq_none.mp bodiless] at announces
      cases announces
    rw [setField, Fields.values_set_of_ne _ other]
  · rfl

/-- A name that neither authorizing nor the client writes. -/
def Request.IsOwnName (name : Text) : Prop := name ∉ stampNames ∧ name ∉ clientNames

instance (name : Text) : Decidable (Request.IsOwnName name) :=
  inferInstanceAs (Decidable (_ ∧ _))

theorem Request.announced_body (request : Request) : request.announced.body = request.body := by
  rw [announced]
  split
  · rfl
  · rfl

theorem Operation.Prepares.body {operation : Operation} {now : Instant} {prepared : Request}
    (prepares : operation.Prepares now prepared) :
    (prepared.received operation.pipeline.userAgent).body = operation.body?.getD [] := by
  obtain ⟨request, built, success⟩ := prepares
  obtain ⟨_, -, rfl⟩ := request_ok built
  have body := (Pipeline.prepare_sameApart success).body
  rw [Request.announced_body] at body
  exact congrArg (Option.getD · []) body

theorem Operation.Prepares.given {operation : Operation} {now : Instant} {prepared : Request}
    (prepares : operation.Prepares now prepared) {pairs : List (Text × Bytes)}
    (given : operation.fields = .ok pairs) {name : Text} (unstamped : name ∉ Request.stampNames)
    (unannounced : name = "content-length".toList → operation.body?.isSome = true) :
    prepared.fields.values name = Fields.values (pairs.map Request.lowered) name := by
  obtain ⟨request, built, success⟩ := prepares
  have body : request.body = operation.body? := by
    obtain ⟨_, -, rfl⟩ := request_ok built
    rfl
  have unsigned : name ≠ authorizationField := by
    rintro rfl
    exact unstamped (by decide)
  rw [(Pipeline.prepare_sameApart success).values name unstamped,
    Request.announced_values _ (body ▸ unannounced), values_request built given unsigned]

theorem Operation.Prepares.values {operation : Operation} {now : Instant} {prepared : Request}
    (prepares : operation.Prepares now prepared) {pairs : List (Text × Bytes)}
    (given : operation.fields = .ok pairs) {name : Text} (own : Request.IsOwnName name)
    (unannounced : name = "content-length".toList → operation.body?.isSome = true) :
    (prepared.received operation.pipeline.userAgent).fields.values name =
      (Fields.values (pairs.map Request.lowered) name).map (Text.trimBy isFieldBlank) := by
  rw [Request.values_received _ _ own.2, prepares.given given own.1 unannounced]

end FileShare
