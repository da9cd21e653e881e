import FileShare.Proofs.Storage.Conversation

/-!
# Operations with another key

The same operation with two keys of one account gives the same outcome and leaves the same
traces, but for signatures.  The runs are compared step by step, from sessions that are alike
to sessions that are alike.  They part where the request is signed: the values differ behind
the name of the account, and nothing that comes later looks at them.
-/

set_option autoImplicit false

namespace FileShare

/-- What stands in front of every signature of an account. -/
def signatureMark (accountName : Text) : Text := "SharedKey " ++ accountName ++ [':']

theorem signatureMark_append (accountName signature : Text) :
    "SharedKey " ++ accountName ++ ':' :: signature = signatureMark accountName ++ signature :=
  (List.append_assoc _ [':'] signature).symm

def cutBehind {α : Type} [DecidableEq α] (mark list : List α) : List α :=
  if mark.isPrefixOf list then mark else list

theorem cutBehind_append {α : Type} [DecidableEq α] (mark rest : List α) :
    cutBehind mark (mark ++ rest) = mark :=
  if_pos (List.isPrefixOf_iff_prefix.mpr (List.prefix_append mark rest))

def Field.unsigned (accountName : Text) (field : Field) : Field :=
  if field.name = authorizationField then
    { field with value := cutBehind (Text.Utf8.encode (signatureMark accountName)) field.value }
  else field

def Received.unsigned (accountName : Text) (received : Received) : Received :=
  { received with fields := received.fields.map (Field.unsigned accountName) }

/-- The failure without the signature that it may quote. -/
def Failure.unsigned (accountName : Text) : Failure -> Failure
  | .error (.input (.malformedValue text)) =>
      .error (.input (.malformedValue (cutBehind (signatureMark accountName) text)))
  | failure => failure

/-- The requests are the same but for signatures. -/
def Received.Alike (accountName : Text) (first second : List Received) : Prop :=
  first.map (unsigned accountName) = second.map (unsigned accountName)

theorem Received.Alike.append {accountName : Text} {first second further others : List Received}
    (alike : Alike accountName first second) (more : Alike accountName further others) :
    Alike accountName (first ++ further) (second ++ others) := by
  simp only [Alike, List.map_append] at alike more ⊢
  rw [alike, more]

structure Session.Alike (accountName : Text) (first second : Session) : Prop where
  now : first.now = second.now
  settings : first.settings = second.settings
  thread : first.thread = second.thread
  sequence : first.sequence = second.sequence
  peer : first.peer = second.peer
  detours : first.detours = second.detours
  log : first.log = second.log
  received : Received.Alike accountName first.received second.received
  followed : Received.Alike accountName first.followed second.followed

/-- Results with related values, or with failures that look alike. -/
inductive Matching {α β : Type} (blur : Failure -> Failure) (related : α -> β -> Prop) :
    Except Failure α -> Except Failure β -> Prop
  | ok {a : α} {b : β} (values : related a b) : Matching blur related (.ok a) (.ok b)
  | error {first second : Failure} (alike : blur first = blur second) :
      Matching blur related (.error first) (.error second)

/-- The runs match in results and leave sessions alike, in sessions that are alike. -/
def Run.Related {α β : Type} (accountName : Text) (blur : Failure -> Failure)
    (related : α -> β -> Prop) (first : Run Failure α) (second : Run Failure β) : Prop :=
  ∀ before₁ before₂ : Session, before₁.Alike accountName before₂ →
    Matching blur related (first before₁).1 (second before₂).1 ∧
      (first before₁).2.Alike accountName (second before₂).2

namespace Run.Related

variable {α β γ δ : Type} {accountName : Text} {blur : Failure -> Failure}

theorem pure {related : α -> β -> Prop} {a : α} {b : β} (values : related a b) :
    Related accountName blur related (pure a) (pure b) :=
  fun _ _ alike => ⟨.ok values, alike⟩

theorem throw (related : α -> β -> Prop) (failure : Failure) :
    Related accountName blur related (throw failure) (throw failure) :=
  fun _ _ alike => ⟨.error rfl, alike⟩

theorem get : Related accountName blur (Session.Alike accountName) get get :=
  fun _ _ alike => ⟨.ok alike, alike⟩

theorem lift {related : α -> β -> Prop} {first : Except Failure α} {second : Except Failure β}
    (matching : Matching blur related first second) :
    Related accountName blur related (liftM first) (liftM second) := by
  cases matching with
  | ok values => exact pure values
  | error alike => exact fun _ _ sessions => ⟨.error alike, sessions⟩

theorem bind {related : α -> β -> Prop} {next : γ -> δ -> Prop} {first : Run Failure α}
    {second : Run Failure β} {then₁ : α -> Run Failure γ} {then₂ : β -> Run Failure δ}
    (begin : Related accountName blur related first second)
    (goOn : ∀ a b, related a b → Related accountName blur next (then₁ a) (then₂ b)) :
    Related accountName blur next (first >>= then₁) (second >>= then₂) := by
  intro before₁ before₂ alike
  obtain ⟨results, sessions⟩ := begin before₁ before₂ alike
  rw [Run.bind_apply, Run.bind_apply]
  rcases ran₁ : first before₁ with ⟨result₁, after₁⟩
  rcases ran₂ : second before₂ with ⟨result₂, after₂⟩
  rw [ran₁, ran₂] at results sessions
  cases results with
  | ok values => exact goOn _ _ values after₁ after₂ sessions
  | error alike => exact ⟨.error alike, sessions⟩

theorem attempt {related : α -> β -> Prop} {first : Run Failure α} {second : Run Failure β}
    (runs : Related accountName blur related first second) :
    Related accountName blur (Matching blur related) (attempt first) (attempt second) := by
  intro before₁ before₂ alike
  obtain ⟨results, sessions⟩ := runs before₁ before₂ alike
  exact ⟨.ok results, sessions⟩

theorem logEntry (level : LogLevel) (text : Text) :
    Related accountName blur (fun _ _ => True) (logEntry level text) (logEntry level text) := by
  intro before₁ before₂ alike
  refine ⟨.ok trivial, { alike with log := ?_ }⟩
  show before₁.log ++ _ = before₂.log ++ _
  rw [alike.log]

end Run.Related

/-! ## Requests -/

theorem Field.name_unsigned (accountName : Text) (field : Field) :
    (field.unsigned accountName).name = field.name := by
  rw [unsigned]
  split
  · rfl
  · rfl

theorem Fields.unsigned_withDefault (accountName : Text) (fields : Fields) {name : Text}
    (other : name ≠ authorizationField) (value : Bytes) :
    (Request.withDefault fields name value).map (Field.unsigned accountName) =
      Request.withDefault (fields.map (Field.unsigned accountName)) name value := by
  have present : (fields.map (Field.unsigned accountName)).any (·.name == name) =
      fields.any (·.name == name) := by
    simp [List.any_map, Function.comp_def, Field.name_unsigned]
  rw [Request.withDefault, Request.withDefault, present]
  split
  · rfl
  · simp [Fields.add, Field.unsigned, other]

/-- The field as it arrives, without a signature. -/
def Field.shown (accountName : Text) (field : Field) : Field :=
  Field.unsigned accountName { field with value := Text.trimBy isFieldBlank field.value }

theorem Field.name_shown (accountName : Text) (field : Field) :
    (field.shown accountName).name = field.name :=
  Field.name_unsigned accountName _

/-- The requests are the same but for signatures and for blanks around values. -/
structure Request.SameBut (accountName : Text) (first second : Request) : Prop where
  method : first.method = second.method
  url : first.url = second.url
  body : first.body = second.body
  fields : first.fields.map (Field.shown accountName) =
    second.fields.map (Field.shown accountName)

namespace Request

variable {accountName : Text}

theorem SameBut.received {first second : Request} (same : first.SameBut accountName second)
    (userAgent : Option Text) :
    (first.received userAgent).unsigned accountName =
      (second.received userAgent).unsigned accountName := by
  have fields : (first.fields.map fun field =>
        { field with value := Text.trimBy isFieldBlank field.value }).map
          (Field.unsigned accountName) =
      (second.fields.map fun field =>
        { field with value := Text.trimBy isFieldBlank field.value }).map
          (Field.unsigned accountName) := by
    rw [List.map_map, List.map_map]
    exact same.fields
  simp only [Request.received, Received.unsigned, same.method, same.url, same.body]
  congr 1
  rw [Fields.unsigned_withDefault _ _ (by decide), Fields.unsigned_withDefault _ _ (by decide),
    Fields.unsigned_withDefault _ _ (by decide), Fields.unsigned_withDefault _ _ (by decide)]
  cases userAgent with
  | none => simp only [Option.elim_none, fields]
  | some agent =>
      rw [Option.elim_some, Option.elim_some, Fields.unsigned_withDefault _ _ (by decide),
        Fields.unsigned_withDefault _ _ (by decide), fields]

/-- Where a client goes does not depend on the fields of the request, and which of them it takes
along depends on their names. -/
theorem SameBut.detour {first second : Request} (same : first.SameBut accountName second)
    (detour : Detour) : (detour.request first).SameBut accountName (detour.request second) := by
  have kept (request : Request) :
      (request.fields.filter fun field => detour.keeps field.name).map (Field.shown accountName) =
        (request.fields.map (Field.shown accountName)).filter fun field =>
          detour.keeps field.name := by
    rw [List.filter_map]
    congr 1
    refine List.filter_congr fun field _ => ?_
    rw [Function.comp_apply, Field.name_shown]
  constructor
  · simp only [Detour.request, same.method]
  · rfl
  · simp only [Detour.request, same.body]
  · simp only [Detour.request, List.map_append, kept, same.fields]

theorem SameBut.onward? {first second : Request} (same : first.SameBut accountName second)
    (detours : Detours) (action : Option PeerAction) :
    Option.Rel (SameBut accountName) (first.onward? detours action)
      (second.onward? detours action) := by
  match action with
  | none => exact .none
  | some .hangUp => exact .none
  | some (.reply reply) =>
      simp only [Request.onward?, Request.next?, same.method, same.url]
      split
      · cases detours second.method second.url (reply.seen second.method) with
        | none => exact .none
        | some detour => exact .some (same.detour detour)
      · exact .none

theorem SameBut.outcome {first second : Request} (same : first.SameBut accountName second)
    (action : Option PeerAction) : first.outcome action = second.outcome action := by
  match action with
  | none => simp only [Request.outcome, same.url]
  | some .hangUp => simp only [Request.outcome, same.url]
  | some (.reply reply) => simp only [Request.outcome, same.method]

theorem sameBut_signature (request : Request) {signature₁ signature₂ : Text}
    (visible₁ : ∀ c ∈ signature₁, 33 ≤ c.toNat ∧ c.toNat ≤ 126)
    (visible₂ : ∀ c ∈ signature₂, 33 ≤ c.toNat ∧ c.toNat ≤ 126) :
    (request.setField authorizationField
        (Text.Utf8.encode ("SharedKey " ++ accountName ++ ':' :: signature₁))).SameBut accountName
      (request.setField authorizationField
        (Text.Utf8.encode ("SharedKey " ++ accountName ++ ':' :: signature₂))) := by
  have cut {signature : Text} (visible : ∀ c ∈ signature, 33 ≤ c.toNat ∧ c.toNat ≤ 126) :
      Field.unsigned accountName
          ⟨authorizationField, Text.trimBy isFieldBlank
            (Text.Utf8.encode ("SharedKey " ++ accountName ++ ':' :: signature))⟩ =
        ⟨authorizationField, Text.Utf8.encode (signatureMark accountName)⟩ := by
    rw [Field.unsigned, if_pos rfl, trim_encode_authorization accountName visible,
      signatureMark_append, Text.Utf8.encode_append, cutBehind_append]
  refine ⟨rfl, rfl, rfl, ?_⟩
  simp only [setField, Fields.set, List.map_append, List.map_cons, List.map_nil, Field.shown,
    cut visible₁, cut visible₂]

end Request

theorem Failure.unsigned_quoted (accountName signature : Text) :
    Failure.unsigned accountName
        (.error (.input (.malformedValue ("SharedKey " ++ accountName ++ ':' :: signature)))) =
      .error (.input (.malformedValue (signatureMark accountName))) := by
  rw [unsigned, signatureMark_append, cutBehind_append]

/-! ## Sending -/

section Sending

variable {accountName : Text} {blur : Failure -> Failure}

/-- Failures that look alike may differ in a quoted signature; with a name that can stand in
a field, none is quoted. -/
def Hides (accountName : Text) (blur : Failure -> Failure) : Prop :=
  blur = Failure.unsigned accountName ∨
    Field.isValue (Text.Utf8.encode accountName) = true

theorem prepare_matching (hides : Hides accountName blur) {pipeline : Pipeline} {key : Bytes}
    (signs : pipeline.credential = some ⟨accountName, key⟩) (other : Bytes) (now : Instant)
    (request : Request) :
    Matching blur (Request.SameBut accountName) (pipeline.prepare now request)
      ((pipeline.rekeyed other).prepare now request) := by
  have signs₂ : (pipeline.rekeyed other).credential = some ⟨accountName, other⟩ := by
    rw [Pipeline.rekeyed, signs]
    rfl
  have authorized (pipeline : Pipeline) {key : Bytes}
      (signs : pipeline.credential = some ⟨accountName, key⟩) :
      pipeline.prepare now request = request.announced.authorize ⟨accountName, key⟩ now := by
    rw [Pipeline.prepare, signs]
  rw [authorized pipeline signs, authorized _ signs₂]
  by_cases date : now.IsDate
  · by_cases named : Field.isValue (Text.Utf8.encode accountName) = true
    · rw [Request.authorize_of_named named date, Request.authorize_of_named named date]
      exact .ok (Request.sameBut_signature _ (fun _ => Request.sign_visible)
        fun _ => Request.sign_visible)
    · -- The refusal quotes the value, so it must be the failures that are compared loosely.
      rw [Request.authorize_of_unnamed named date, Request.authorize_of_unnamed named date]
      apply Matching.error
      rw [hides.resolve_right named]
      exact (Failure.unsigned_quoted _ _).trans (Failure.unsigned_quoted _ _).symm
  · obtain ⟨fault, stopped⟩ := Instant.dated_of_not_isDate date
    simp only [Request.authorize, stopped]
    exact .error rfl

/-- The journeys are the same but for signatures. -/
structure Journey.Alike (accountName : Text) (first second : Journey) : Prop where
  result : first.result = second.result
  peer : first.peer = second.peer
  followed : Received.Alike accountName first.followed second.followed

theorem travel_related (detours : Detours) (userAgent : Option Text) (most : Nat)
    {first second : Request} (same : first.SameBut accountName second) (peer : Peer) :
    (travel detours userAgent most first peer).Alike accountName
      (travel detours userAgent most second peer) := by
  induction most using Nat.strongRecOn generalizing first second peer with
  | ind most ih =>
      rw [travel, travel]
      rcases peer.answer with ⟨action, next⟩
      have goesOn := same.onward? detours action
      have outcome := same.outcome action
      dsimp only
      generalize first.onward? detours action = onward₁ at goesOn ⊢
      generalize second.onward? detours action = onward₂ at goesOn ⊢
      cases goesOn with
      | none => exact ⟨outcome, rfl, rfl⟩
      | @some onward₁ onward₂ goesOn =>
          simp only [same.url, goesOn.url]
          cases most with
          | zero => exact ⟨rfl, rfl, rfl⟩
          | succ fewer =>
              cases next.obstacle? onward₂.url with
              | some fault => exact ⟨rfl, rfl, rfl⟩
              | none =>
                  obtain ⟨result, peer, followed⟩ := ih fewer (Nat.lt_succ_self fewer) goesOn next
                  have one : Received.Alike accountName [onward₁.received userAgent]
                      [onward₂.received userAgent] := by
                    simp only [Received.Alike, List.map_cons, List.map_nil, goesOn.received]
                  exact ⟨result, peer, one.append followed⟩

theorem exchange_related {first second : Request} (same : first.SameBut accountName second)
    (userAgent : Option Text) :
    Run.Related accountName blur (· = ·)
      (mapFailure Failure.error (exchange first userAgent))
      (mapFailure Failure.error (exchange second userAgent)) := by
  intro before₁ before₂ alike
  rw [Run.mapFailure_apply, Run.mapFailure_apply]
  cases blocked : before₂.peer.obstacle? second.url with
  | some fault =>
      have blocked₁ : before₁.peer.obstacle? first.url = some fault := by
        rw [alike.peer, same.url, blocked]
      simp only [exchange, Run.bind_apply, Run.get_apply, Run.throw_apply, blocked, blocked₁]
      exact ⟨.error rfl, alike⟩
  | none =>
      have arrives₂ := Peer.obstacle?_eq_none_iff.mp blocked
      have arrives₁ : first.Arrives before₁.peer :=
        ⟨same.url ▸ arrives₂.usable, alike.peer ▸ arrives₂.reached⟩
      rw [exchange_arriving arrives₁, exchange_arriving arrives₂]
      have journeys : (first.journey userAgent before₁).Alike accountName
          (second.journey userAgent before₂) := by
        rw [Request.journey, Request.journey, alike.peer, alike.detours]
        exact travel_related _ _ _ same _
      have arrived : Received.Alike accountName [first.received userAgent]
          [second.received userAgent] := by
        simp only [Received.Alike, List.map_cons, List.map_nil, same.received]
      have after : Session.Alike accountName (before₁.passedBy first userAgent)
          (before₂.passedBy second userAgent) :=
        { alike with
          peer := journeys.peer
          received := alike.received.append arrived
          followed := alike.followed.append journeys.followed }
      rw [journeys.result]
      cases (second.journey userAgent before₂).result with
      | error error => exact ⟨.error rfl, after⟩
      | ok response => exact ⟨.ok rfl, after⟩

/-- A request that is sent with two keys meets the same answer and leaves the same traces. -/
theorem send_related (hides : Hides accountName blur) {pipeline : Pipeline} {key : Bytes}
    (signs : pipeline.credential = some ⟨accountName, key⟩) (other : Bytes) (request : Request)
    (expected : List Nat) :
    Run.Related accountName blur (· = ·) (pipeline.send request expected)
      ((pipeline.rekeyed other).send request expected) := by
  unfold Pipeline.send
  apply Run.Related.bind Run.Related.get
  intro session₁ session₂ alike
  rw [← alike.now]
  apply Run.Related.bind (Run.Related.lift (prepare_matching hides signs other _ request))
  intro prepared₁ prepared₂ same
  -- The log and the peer's choice of an answer see method and URL only, which are the same.
  rw [same.method, same.url]
  apply Run.Related.bind (Run.Related.logEntry _ _)
  intro _ _ _
  apply Run.Related.bind (exchange_related same _)
  rintro response _ rfl
  dsimp only
  split
  · apply Run.Related.bind (Run.Related.logEntry _ _)
    intro _ _ _
    exact Run.Related.pure rfl
  · apply Run.Related.bind (Run.Related.logEntry _ _)
    intro _ _ _
    exact Run.Related.throw _ _

theorem settle_related (operation : Operation) (response : Option Response) :
    Run.Related accountName blur (· = ·) (operation.settle response)
      (operation.settle response) := by
  have read : Run.Related accountName blur (· = ·) (liftM (operation.read response))
      (liftM (operation.read response)) := by
    apply Run.Related.lift
    cases operation.read response with
    | error failure => exact .error rfl
    | ok outcome => exact .ok rfl
  rw [Operation.settle]
  cases operation.note? with
  | none => exact read
  | some text => exact Run.Related.bind (Run.Related.logEntry _ _) fun _ _ _ => read

theorem run_related (hides : Hides accountName blur) {operation : Operation} {key : Bytes}
    (signs : operation.pipeline.credential = some ⟨accountName, key⟩) (other : Bytes) :
    Run.Related accountName blur (· = ·) operation.run (operation.rekeyed other).run := by
  unfold Operation.run
  rw [operation.isIdle_rekeyed, operation.request_rekeyed, operation.expected_rekeyed,
    operation.pipeline_rekeyed]
  split
  · exact Run.Related.pure rfl
  · split
    · exact Run.Related.throw _ _
    · apply Run.Related.bind (send_related hides signs other _ _)
      rintro response _ rfl
      exact Run.Related.pure rfl

theorem offer_related (hides : Hides accountName blur) {operation : Operation} {key : Bytes}
    (signs : operation.pipeline.credential = some ⟨accountName, key⟩) (other : Bytes) :
    Run.Related accountName blur (· = ·) operation.offer (operation.rekeyed other).offer := by
  rw [Operation.offer_eq, Operation.offer_eq, operation.settle_rekeyed]
  apply Run.Related.bind (run_related hides signs other)
  rintro response _ rfl
  exact settle_related operation response

end Sending

end FileShare
