import FileShare.Proofs.Signing.Coverage

/-!
# Authorizing a request again

Authorizing writes three fields, each in place of whatever stood there, and the text that is
signed holds nothing of an earlier signature.  So an earlier authorization, by any credential at
any time, leaves no trace in a later one, and everything but the three fields is as it was.
-/

set_option autoImplicit false

namespace FileShare

namespace Request

/-- The requests are the same, field by field, but for the fields with some names. -/
structure SameApart (free : Text -> Prop) (first second : Request) : Prop where
  method : first.method = second.method
  url : first.url = second.url
  body : first.body = second.body
  values : ∀ name, ¬ free name → first.fields.values name = second.fields.values name

/-- The requests are the same; the order of fields with different names does not count. -/
def Same (first second : Request) : Prop := first.SameApart (fun _ => False) second

namespace SameApart

variable {free : Text -> Prop} {first second : Request}

theorem refl (free : Text -> Prop) (request : Request) : request.SameApart free request :=
  ⟨rfl, rfl, rfl, fun _ _ => rfl⟩

theorem symm (same : first.SameApart free second) : second.SameApart free first :=
  ⟨same.method.symm, same.url.symm, same.body.symm,
    fun name notFree => (same.values name notFree).symm⟩

/-- A field that is written in one of them makes no difference under a free name. -/
theorem setField_left (same : first.SameApart free second) {name : Text} (isFree : free name)
    (value : Bytes) : (first.setField name value).SameApart free second := by
  refine ⟨same.method, same.url, same.body, fun sought notFree => ?_⟩
  have different : sought ≠ name := fun own => notFree (own ▸ isFree)
  rw [setField, Fields.values_set_of_ne _ different, same.values sought notFree]

/-- A field that is written in both is free no more. -/
theorem setField (same : first.SameApart free second) (name : Text) (value : Bytes) :
    (first.setField name value).SameApart (fun sought => sought ≠ name ∧ free sought)
      (second.setField name value) := by
  refine ⟨same.method, same.url, same.body, fun sought notFree => ?_⟩
  rw [Request.setField, Request.setField]
  by_cases own : sought = name
  · rw [own, Fields.values_set_self, Fields.values_set_self]
  · rw [Fields.values_set_of_ne _ own, Fields.values_set_of_ne _ own]
    exact same.values sought fun isFree => notFree ⟨own, isFree⟩

theorem mono {wider : Text -> Prop} (same : first.SameApart free second)
    (covers : ∀ name, free name → wider name) : first.SameApart wider second :=
  ⟨same.method, same.url, same.body,
    fun name notFree => same.values name fun isFree => notFree (covers name isFree)⟩

/-- The signature is no part of what is signed. -/
theorem stringToSign_eq (same : first.SameApart (· = authorizationField) second)
    (accountName : Text) :
    Canonical.stringToSign accountName first = Canonical.stringToSign accountName second := by
  apply Canonical.stringToSign_congr
  · exact same.method
  · intro name member
    have others := (Canonical.lineNames_apart name member).2
    exact same.values name fun own => others (own ▸ List.mem_cons_self)
  · apply Canonical.fieldLines_congr
    intro name marked
    rw [same.values name]
    rintro rfl
    exact absurd marked (by decide)
  · rw [same.url]
  · rw [same.url]

end SameApart

/-! ## Authorizing -/

def stampNames : List Text := [dateField, versionField, authorizationField]

/-- Requests that differ in nothing but their stamps are the same when stamped anew, but for
their signatures. -/
theorem SameApart.stamped {first second : Request}
    (same : first.SameApart (· ∈ stampNames) second) (now : Instant) :
    (first.stamped now).SameApart (· = authorizationField) (second.stamped now) := by
  refine SameApart.mono ((same.setField dateField _).setField versionField _) ?_
  rintro name ⟨noVersion, noDate, stamp⟩
  simp only [stampNames, List.mem_cons, noDate, noVersion, List.not_mem_nil, or_false,
    false_or] at stamp
  exact stamp

/-- Requests that differ in nothing but their stamps are refused for the same reason, or are the
same once they are authorized. -/
theorem SameApart.authorize {first second : Request}
    (same : first.SameApart (· ∈ stampNames) second) (credential : Credential) (now : Instant) :
    (∃ failure, first.authorize credential now = .error failure ∧
        second.authorize credential now = .error failure) ∨
      ∃ signed other, first.authorize credential now = .ok signed ∧
        second.authorize credential now = .ok other ∧ signed.Same other := by
  simp only [Request.authorize]
  cases now.dated with
  | error fault => exact Or.inl ⟨_, rfl, rfl⟩
  | ok date =>
      have stamped := same.stamped date
      have authorization : (first.stamped date).authorization credential =
          (second.stamped date).authorization credential := by
        have text := stamped.stringToSign_eq credential.accountName
        unfold Request.authorization
        rw [text]
      simp only [authorization]
      cases fieldValue ((second.stamped date).authorization credential) with
      | error error => exact Or.inl ⟨_, rfl, rfl⟩
      | ok value =>
          have signed := stamped.setField authorizationField value
          have agree : ((first.stamped date).setField authorizationField value).Same
              ((second.stamped date).setField authorizationField value) :=
            signed.mono fun _ own => own.1 own.2
          exact Or.inr ⟨_, _, rfl, rfl, agree⟩

/-- The request is another one with a date, a version and a signature of what it now says. -/
structure IsAuthorized (signed request : Request) (credential : Credential) (now : Instant) :
    Prop where
  rest : signed.SameApart (· ∈ stampNames) request
  date : signed.fields.values dateField = [Text.asciiBytes now.httpDate]
  version : signed.fields.values versionField = [Text.asciiBytes serviceVersion]
  signature : signed.fields.values authorizationField = [signed.signature credential]

theorem isAuthorized {request signed : Request} {credential : Credential} {now : Instant}
    (success : request.authorize credential now = .ok signed) :
    signed.IsAuthorized request credential now := by
  obtain rfl := eq_of_authorize success
  have unsigned (name : Text) (different : name ≠ authorizationField) :
      (((request.stamped now).setField authorizationField
        ((request.stamped now).signature credential)).fields).values name =
          (request.stamped now).fields.values name := by
    rw [setField, Fields.values_set_of_ne _ different]
  constructor
  · have date : dateField ∈ stampNames := by decide
    have version : versionField ∈ stampNames := by decide
    have authorization : authorizationField ∈ stampNames := by decide
    exact (((SameApart.refl _ request).setField_left date _).setField_left version _).setField_left
      authorization _
  · rw [unsigned _ (by decide), stamped, setField, setField,
      Fields.values_set_of_ne _ (by decide), Fields.values_set_self]
  · rw [unsigned _ (by decide), stamped, setField, Fields.values_set_self]
  · have same := (SameApart.refl (· = authorizationField) (request.stamped now)).setField_left
      rfl ((request.stamped now).signature credential)
    rw [signature_congr (same.stringToSign_eq credential.accountName), setField,
      Fields.values_set_self]

end Request

/-- A request that was authorized before, by whomever and whenever, is authorized as if it had
not been: it is refused for the same reason or comes to the same request, which has one value of
each stamp and is otherwise as it was. -/
theorem authorize_absorbs_earlier {request first : Request} {earlier credential : Credential}
    {past now : Instant} (once : request.authorize earlier past = .ok first) :
    (∀ failure, first.authorize credential now = .error failure ↔
      request.authorize credential now = .error failure) ∧
    ∀ alone, request.authorize credential now = .ok alone →
      alone.IsAuthorized request credential now ∧
        ∃ again, first.authorize credential now = .ok again ∧ again.Same alone := by
  have same := (Request.isAuthorized once).rest
  rcases same.authorize credential now with ⟨failure, refused, other⟩ |
    ⟨again, alone, signed, other, agree⟩
  · rw [refused, other]
    constructor
    · exact fun _ => Iff.rfl
    · intro alone success
      cases success
  · rw [signed, other]
    constructor
    · intro failure
      constructor
      · intro failed
        cases failed
      · intro failed
        cases failed
    · intro result success
      obtain rfl := Except.ok.inj success
      exact ⟨Request.isAuthorized other, again, rfl, agree⟩

/-- A request with stale stamps, two of which stand there twice. -/
def Request.staleSample : Request :=
  { method := "PUT"
    url :=
      { scheme := "http", username := [], password := [], host := some (.domain "files")
        port := none, path := .segments ["share"], isSetApart := false
        query := some "restype=share", fragment := none }
    fields := [⟨authorizationField, [49]⟩, ⟨dateField, [50]⟩, ⟨"x-ms-meta-a", [51]⟩,
      ⟨authorizationField, [52]⟩, ⟨"x-ms-meta-a", [53]⟩, ⟨versionField, [54]⟩, ⟨dateField, []⟩]
    body := some [55] }

theorem authorize_absorbs_earlier_sample :
    ∃ first again alone, Request.staleSample.authorize ⟨"one", [1]⟩ ⟨671, 0⟩ = .ok first ∧
      first.authorize ⟨"other", [2]⟩ ⟨1792400456, 9⟩ = .ok again ∧
      Request.staleSample.authorize ⟨"other", [2]⟩ ⟨1792400456, 9⟩ = .ok alone ∧
      again.Same alone ∧
      alone.fields.values dateField = [Text.asciiBytes "Mon, 19 Oct 2026 09:00:56 GMT"] ∧
      alone.fields.values "x-ms-meta-a" = [[51], [53]] := by
  have once : Request.staleSample.authorize ⟨"one", [1]⟩ ⟨671, 0⟩ = .ok _ :=
    Request.authorize_of_named (by decide) (by decide) _
  have other : Request.staleSample.authorize ⟨"other", [2]⟩ ⟨1792400456, 9⟩ = .ok _ :=
    Request.authorize_of_named (by decide) (by decide) _
  obtain ⟨authorized, again, signed, same⟩ := (authorize_absorbs_earlier once).2 _ other
  refine ⟨_, again, _, once, signed, other, same, ?_, ?_⟩
  · rw [authorized.date]
    decide
  · rw [authorized.rest.values _ (by decide)]
    decide

end FileShare
