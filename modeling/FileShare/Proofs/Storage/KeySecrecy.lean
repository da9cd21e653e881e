import Mathlib.Data.List.Forall2
import FileShare.Proofs.Storage.Related

/-!
# What depends on the key of an account

Two conversations with the same account and different keys are the same but for signatures.
A signature stands behind the name of the account in the authorization of a request, and
nowhere else if the name can stand in a field.  If it cannot, nothing is sent, and the
refusal quotes the value with the signature in it.
-/

set_option autoImplicit false

namespace FileShare

/-- The answers are the same but for failures that look alike. -/
def Answer.Alike (blur : Failure -> Failure) : Answer -> Answer -> Prop
  | .outcome result₁, .outcome result₂ => Matching blur (· = ·) result₁ result₂
  | first, second => first = second

structure Client.Signs (client : Client) (credential : Credential) : Prop where
  service : client.service.pipeline.credential = some credential
  handles : ∀ handle ∈ client.handles, handle.pipeline.credential = some credential

section Conversation

variable {accountName : Text} {blur : Failure -> Failure} {client : Client} {key : Bytes}

theorem Client.Signs.derived {credential : Credential} (signs : client.Signs credential)
    {derivation : Derivation} {handle : Handle}
    (derived : client.derive? derivation = some handle) :
    handle.pipeline.credential = some credential := by
  have child {place : Nat} {next : Handle → Option Handle}
      (inherits : ∀ parent child : Handle, next parent = some child →
        child.pipeline = parent.pipeline)
      (made : client.handles[place]?.bind next = some handle) :
      handle.pipeline.credential = some credential := by
    obtain ⟨parent, found, grown⟩ := Option.bind_eq_some_iff.mp made
    rw [inherits parent handle grown]
    exact signs.handles parent (List.mem_of_getElem? found)
  cases derivation with
  | share name =>
      cases derived
      exact signs.service
  | root place =>
      refine child (fun parent grown made => ?_) derived
      cases parent <;> cases made
      rfl
  | directory place name =>
      refine child (fun parent grown made => ?_) derived
      cases parent <;> cases made
      · rfl
      · rfl
  | file place name =>
      refine child (fun parent grown made => ?_) derived
      cases parent <;> cases made
      rfl

theorem Client.Signs.keep {credential : Credential} (signs : client.Signs credential)
    {handle : Handle} (new : handle.pipeline.credential = some credential) :
    (client.keep handle).Signs credential :=
  ⟨signs.service, List.forall_mem_append.mpr
    ⟨signs.handles, List.forall_mem_cons.mpr ⟨new, List.forall_mem_nil _⟩⟩⟩

theorem Client.Signs.asked {credential : Credential} (signs : client.Signs credential)
    {place : Nat} {task : Task} {operation : Operation}
    (asked : client.handles[place]?.bind task.on? = some operation) :
    operation.pipeline.credential = some credential := by
  obtain ⟨handle, found, made⟩ := Option.bind_eq_some_iff.mp asked
  have same : operation.pipeline = handle.pipeline := by
    rw [← operation.pipeline_handle]
    cases task <;> cases handle <;> cases made <;> rfl
  rw [same]
  exact signs.handles handle (List.mem_of_getElem? found)

/-- One step with two keys gives answers that are alike, and clients that differ in the key. -/
theorem Client.take_related (hides : Hides accountName blur)
    (signs : client.Signs ⟨accountName, key⟩) (other : Bytes) (step : Step) :
    Run.Related accountName blur
      (fun first second => first.1.Signs ⟨accountName, key⟩ ∧
        second.1 = first.1.rekeyed other ∧ first.2.Alike blur second.2)
      (client.take step) ((client.rekeyed other).take step) := by
  cases step with
  | derive derivation =>
      simp only [Client.take, client.derive?_rekeyed other derivation]
      cases derived : client.derive? derivation with
      | none => exact Run.Related.pure ⟨signs, rfl, rfl⟩
      | some handle =>
          simp only [Option.map_some, client.keep_rekeyed, handle.url_rekeyed,
            handle.name_rekeyed]
          exact Run.Related.pure ⟨signs.keep (signs.derived derived), rfl, rfl⟩
  | ask place task =>
      simp only [Client.take, client.ask_rekeyed other place task]
      cases asked : client.handles[place]?.bind task.on? with
      | none => exact Run.Related.pure ⟨signs, rfl, rfl⟩
      | some operation =>
          have runs := offer_related hides (signs.asked asked) other
          apply Run.Related.bind runs.attempt
          intro result₁ result₂ results
          exact Run.Related.pure ⟨signs, rfl, results⟩

theorem Client.converse_related (hides : Hides accountName blur)
    (signs : client.Signs ⟨accountName, key⟩) (other : Bytes) (steps : List Step) :
    Run.Related accountName blur (List.Forall₂ (Answer.Alike blur))
      (client.converse steps) ((client.rekeyed other).converse steps) := by
  induction steps generalizing client with
  | nil => exact Run.Related.pure .nil
  | cons step rest ih =>
      unfold Client.converse
      apply Run.Related.bind (Client.take_related hides signs other step)
      rintro ⟨first, answer₁⟩ ⟨_, answer₂⟩ ⟨signs, rfl, alike⟩
      apply Run.Related.bind (ih signs)
      intro answers₁ answers₂ answers
      exact Run.Related.pure (.cons alike answers)

end Conversation

theorem Session.Alike.refl (accountName : Text) (session : Session) :
    session.Alike accountName session :=
  ⟨rfl, rfl, rfl, rfl, rfl, rfl, rfl, rfl, rfl⟩

theorem Credential.eq_of_ofText {accountName keyText : Text} {credential : Credential}
    (accepted : ofText accountName keyText = .ok credential) :
    credential = ⟨accountName, credential.key⟩ := by
  rw [ofText] at accepted
  split at accepted
  · cases accepted
  · split at accepted
    · cases accepted
    · cases accepted
      rfl

theorem describe_rekeyed {pipeline : Pipeline} {credential : Credential}
    (signs : pipeline.credential = some credential) (key : Bytes) :
    pipeline.describe = (pipeline.rekeyed key).describe := by
  obtain ⟨_, userAgent⟩ := pipeline
  obtain rfl := signs
  rfl

theorem make_related {accountName : Text} {blur : Failure -> Failure} (key other : Bytes)
    (options : PipelineOptions) :
    Run.Related accountName blur
      (fun first second => first.credential = some ⟨accountName, key⟩ ∧
        second = first.rekeyed other)
      (mapFailure Failure.error (Pipeline.make (some ⟨accountName, key⟩) options))
      (mapFailure Failure.error (Pipeline.make (some ⟨accountName, other⟩) options)) := by
  intro before₁ before₂ alike
  rw [Run.mapFailure_apply, Run.mapFailure_apply]
  cases valid : options.userAgent.elim true
      (fun name => Field.isValue (Text.Utf8.encode name)) with
  | true =>
      obtain ⟨-, logged⟩ := @Run.Related.logEntry accountName blur .debug _ before₁ before₂ alike
      simp only [Pipeline.make, valid, if_true, Run.bind_apply, logEntry_apply, Run.pure_apply]
      exact ⟨.ok ⟨rfl, rfl⟩, logged⟩
  | false =>
      simp only [Pipeline.make, valid, Bool.false_eq_true, if_false, Run.throw_apply]
      exact ⟨.error rfl, alike⟩

theorem Account.converse_related {accountName : Text} {blur : Failure -> Failure}
    (hides : Hides accountName blur) {keyText₁ keyText₂ : Text}
    {credential₁ credential₂ : Credential}
    (accepted₁ : Credential.ofText accountName keyText₁ = .ok credential₁)
    (accepted₂ : Credential.ofText accountName keyText₂ = .ok credential₂)
    (options : PipelineOptions) (endpoint : Text) (steps : List Step) :
    Run.Related accountName blur (List.Forall₂ (Answer.Alike blur))
      (converse ⟨accountName, keyText₁⟩ options endpoint steps)
      (converse ⟨accountName, keyText₂⟩ options endpoint steps) := by
  obtain ⟨name₁, key₁⟩ := credential₁
  obtain ⟨name₂, key₂⟩ := credential₂
  obtain rfl : name₁ = accountName :=
    congrArg Credential.accountName (Credential.eq_of_ofText accepted₁)
  obtain rfl : name₂ = name₁ :=
    congrArg Credential.accountName (Credential.eq_of_ofText accepted₂)
  unfold converse
  simp only [credential, accepted₁, accepted₂]
  cases Url.parse endpoint with
  | error fault => exact Run.Related.throw _ _
  | ok url =>
      apply Run.Related.bind (make_related key₁ key₂ options)
      rintro pipeline _ ⟨signs, rfl⟩
      have client : Client.Signs ⟨⟨url, pipeline⟩, []⟩ ⟨name₂, key₁⟩ :=
        ⟨signs, List.forall_mem_nil _⟩
      apply Run.Related.bind (Client.converse_related hides client key₂ steps)
      intro answers₁ answers₂ answers
      have same := congrArg Answer.text (describe_rekeyed signs key₂)
      exact Run.Related.pure (.cons rfl (.cons rfl (.cons same answers)))

theorem Answer.Alike.eq {first second : Answer} (alike : first.Alike id second) :
    first = second := by
  cases first with
  | outcome result₁ =>
      cases second with
      | outcome result₂ =>
          cases alike with
          | ok same => rw [same]
          | error same => exact congrArg (fun failure => outcome (.error failure)) same
      | _ => exact alike
  | _ => exact alike

theorem Matching.eq {result₁ result₂ : Except Failure (List Answer)}
    (matching : Matching id (List.Forall₂ (Answer.Alike id)) result₁ result₂) :
    result₁ = result₂ := by
  cases matching with
  | error same => exact congrArg Except.error same
  | ok answers =>
      have same : List.Forall₂ (· = ·) _ _ := answers.imp fun _ _ alike => alike.eq
      rw [List.forall₂_eq_eq_eq] at same
      rw [same]

/-- Whatever the key, the conversation is the same but for signatures: those in requests, and
those that are quoted where the name of the account cannot stand in a field. -/
theorem key_only_in_signatures {accountName keyText₁ keyText₂ : Text}
    {credential₁ credential₂ : Credential}
    (accepted₁ : Credential.ofText accountName keyText₁ = .ok credential₁)
    (accepted₂ : Credential.ofText accountName keyText₂ = .ok credential₂)
    (options : PipelineOptions) (endpoint : Text) (steps : List Step) (before : Session) :
    let first := Account.converse ⟨accountName, keyText₁⟩ options endpoint steps before
    let second := Account.converse ⟨accountName, keyText₂⟩ options endpoint steps before
    Matching (Failure.unsigned accountName)
        (List.Forall₂ (Answer.Alike (Failure.unsigned accountName))) first.1 second.1 ∧
      first.2.Alike accountName second.2 ∧
      (Field.isValue (Text.Utf8.encode accountName) = true → first.1 = second.1) := by
  intro first second
  have alike := Session.Alike.refl accountName before
  obtain ⟨results, sessions⟩ := Account.converse_related (Or.inl rfl) accepted₁ accepted₂
    options endpoint steps before before alike
  refine ⟨results, sessions, fun named => ?_⟩
  have hides : Hides accountName id := Or.inr named
  obtain ⟨exact, -⟩ := Account.converse_related hides accepted₁ accepted₂ options endpoint steps
    before before alike
  exact exact.eq

def Step.samples : List Step := [.derive (.share "files"), .ask 0 .deleteShare]

theorem key_only_in_signatures_sample :
    (Account.converse ⟨"account", "AQ=="⟩ {} "http://host/" Step.samples
        Session.silentSample).1 =
      (Account.converse ⟨"account", "Ag=="⟩ {} "http://host/" Step.samples
        Session.silentSample).1 := by
  have accepted₁ : Credential.ofText "account" "AQ==" = .ok ⟨"account", [1]⟩ := by rfl
  have accepted₂ : Credential.ofText "account" "Ag==" = .ok ⟨"account", [2]⟩ := by rfl
  have conversations := key_only_in_signatures accepted₁ accepted₂ {} "http://host/"
    Step.samples Session.silentSample
  exact conversations.2.2 (by decide)

/-- The values that are quoted as malformed. -/
def Answer.quoted? : Answer -> Option Text
  | .outcome (.error (.error (.input (.malformedValue quoted)))) => some quoted
  | _ => none

/-- A name with a line end, which no field can hold: the refusals differ with the keys. -/
theorem key_in_refusal :
    (Credential.ofText "a\nb" "AQ==").isOk = true ∧ (Credential.ofText "a\nb" "Ag==").isOk = true ∧
      (Account.converse ⟨"a\nb", "AQ=="⟩ {} "http://host/" Step.samples Session.silentSample).1 ≠
        (Account.converse ⟨"a\nb", "Ag=="⟩ {} "http://host/" Step.samples
          Session.silentSample).1 := by
  refine ⟨by decide, by decide, fun same => ?_⟩
  have quoted := congrArg (fun result => (result.toOption.getD []).filterMap Answer.quoted?) same
  exact absurd quoted (by decide +kernel)

end FileShare
