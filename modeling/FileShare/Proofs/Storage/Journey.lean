import FileShare.Proofs.Http.Field
import FileShare.Storage.Pipeline

/-!
# What becomes of a request that arrives

A reply may send the client elsewhere, and the client goes there by itself.  So one request can
take several answers from the peer and be followed by other requests: one for each reply that
was passed over, and ten at most.  The action that ends the journey counts as if it had met the
first request.  Where the next reply sends nobody elsewhere, the journey ends with it.
-/

set_option autoImplicit false

namespace FileShare

/-! ## Replies as they arrive -/

namespace Reply

theorem values_seen (reply : Reply) (method : Text) {name : Text} (other : name ≠ "content-length") :
    (reply.seen method).fields.values name =
      (reply.fields.values name).map (Text.trimBy isFieldBlank) := by
  have trimmed : Fields.values
      (reply.fields.map fun field =>
        { field with value := Text.trimBy isFieldBlank field.value }) name =
      (reply.fields.values name).map (Text.trimBy isFieldBlank) := Fields.values_map _ _ _
  simp only [seen]
  split
  · exact trimmed
  · split
    · exact trimmed
    · rw [Fields.add, Fields.values_append, Fields.values_singleton, if_neg (Ne.symm other),
        List.append_nil]
      exact trimmed

theorem status_seen (reply : Reply) (method : Text) :
    (reply.seen method).status = reply.status := by
  simp only [seen]
  split
  · rfl
  · split <;> rfl

/-- Of the method, only whether it is HEAD shows in a response. -/
theorem seen_congr (reply : Reply) {first second : Text} (same : first = "HEAD" ↔ second = "HEAD") :
    reply.seen first = reply.seen second := by
  simp only [seen, same]

/-- The reply has a status with which a client goes elsewhere, and names a place. -/
def IsRedirection (reply : Reply) : Prop :=
  reply.status ∈ Status.elsewhere ∧ (reply.fields.first? "location").isSome = true

instance (reply : Reply) : Decidable reply.IsRedirection := inferInstanceAs (Decidable (_ ∧ _))

theorem sendsElsewhere_seen (reply : Reply) (method : Text) :
    (reply.seen method).sendsElsewhere = true ↔ reply.IsRedirection := by
  rw [Response.sendsElsewhere, reply.status_seen, Fields.first?,
    reply.values_seen method (by decide), List.head?_map, Option.isSome_map, Bool.and_eq_true,
    List.contains_iff_mem]
  exact Iff.rfl

/-- No reply that is accepted by any operation is a redirection. -/
theorem not_isRedirection_of_small (reply : Reply) (small : reply.status < 300) :
    ¬ reply.IsRedirection := by
  rintro ⟨known, -⟩
  have large : ∀ status ∈ Status.elsewhere, 300 ≤ status := by decide
  exact absurd (large _ known) (by omega)

end Reply

namespace PeerAction

def IsRedirection : PeerAction -> Prop
  | .reply answer => answer.IsRedirection
  | .hangUp => False

instance : (action : PeerAction) -> Decidable action.IsRedirection
  | .reply answer => inferInstanceAs (Decidable answer.IsRedirection)
  | .hangUp => inferInstanceAs (Decidable False)

end PeerAction

namespace Peer

/-- The next reply of the peer sends the client elsewhere. -/
def Redirects (peer : Peer) : Prop := ∃ action, peer.answer.1 = some action ∧ action.IsRedirection

theorem answer_of_there {peer : Peer} (there : peer ≠ .unreachable) :
    ∃ action, peer.answer.1 = some action ∧ peer.answer.2 ≠ .unreachable := by
  cases peer with
  | unreachable => exact absurd rfl there
  | scripted script last =>
      cases script with
      | nil => exact ⟨last, rfl, there⟩
      | cons action rest => exact ⟨action, rfl, fun gone => by cases gone⟩

/-- The peer takes these actions one after the other, and is then the peer given last. -/
inductive Answers : Peer -> List PeerAction -> Peer -> Prop
  | nil (peer : Peer) : Answers peer [] peer
  | cons {peer next later : Peer} {action : PeerAction} {rest : List PeerAction}
      (answered : peer.answer = (some action, next)) (answers : Answers next rest later) :
      Answers peer (action :: rest) later

theorem Answers.single_iff {peer later : Peer} {action : PeerAction} :
    peer.Answers [action] later ↔ peer.answer = (some action, later) := by
  constructor
  · intro answers
    cases answers with
    | cons answered rest =>
        cases rest
        exact answered
  · exact fun answered => .cons answered (.nil _)

theorem Answers.first {peer later : Peer} {action : PeerAction} {rest : List PeerAction}
    (answers : peer.Answers (action :: rest) later) : peer.answer.1 = some action := by
  cases answers with
  | cons answered _ => exact congrArg Prod.fst answered

/-- What a peer does first does not depend on how much of it is looked at. -/
theorem Answers.agree {peer later other : Peer} {first second : List PeerAction}
    (one : peer.Answers first later) (two : peer.Answers second other) :
    first <+: second ∨ second <+: first := by
  induction one generalizing second other with
  | nil peer => exact Or.inl List.nil_prefix
  | cons answered _ ih =>
      cases two with
      | nil => exact Or.inr List.nil_prefix
      | cons again rest =>
          obtain ⟨same, rfl⟩ := Prod.mk.inj (answered.symm.trans again)
          obtain rfl := Option.some.inj same
          rcases ih rest with shorter | longer
          · exact Or.inl (List.cons_prefix_cons.mpr ⟨rfl, shorter⟩)
          · exact Or.inr (List.cons_prefix_cons.mpr ⟨rfl, longer⟩)

end Peer

/-! ## Going on -/

theorem Request.next?_method {request onward : Request} {detours : Detours} {response : Response}
    (goesOn : request.next? detours response = some onward) :
    (onward.method = request.method ∨ onward.method = "GET".toList) ∧
      (onward.method = "HEAD" ↔ request.method = "HEAD") := by
  rw [next?] at goesOn
  split at goesOn
  · obtain ⟨detour, -, rfl⟩ := Option.map_eq_some_iff.mp goesOn
    rw [Detour.request]
    by_cases anew : detour.asksAnew && request.method != "HEAD"
    · have other : request.method ≠ "HEAD" := by
        simpa using (Bool.and_eq_true_iff.mp anew).2
      simp only [anew, if_true]
      exact ⟨Or.inr trivial, iff_of_false (by decide) other⟩
    · simp only [anew]
      exact ⟨Or.inl rfl, Iff.rfl⟩
  · cases goesOn

/-- The client goes on only after a reply that sends it elsewhere. -/
theorem Request.onward?_some {request onward : Request} {detours : Detours}
    {action : Option PeerAction} (goesOn : request.onward? detours action = some onward) :
    ∃ reply, action = some (.reply reply) ∧ reply.IsRedirection ∧
      request.next? detours (reply.seen request.method) = some onward := by
  match action, goesOn with
  | some (.reply reply), goesOn =>
      refine ⟨reply, rfl, (reply.sendsElsewhere_seen request.method).mp ?_, goesOn⟩
      by_cases elsewhere : (reply.seen request.method).sendsElsewhere = true
      · exact elsewhere
      · simp [Request.onward?, Request.next?, elsewhere] at goesOn
  | some .hangUp, goesOn => cases goesOn
  | none, goesOn => cases goesOn

section Travel

variable (detours : Detours) (userAgent : Option Text)

/-- One step of a journey: it ends with the answer of the peer, or the answer sends the client
elsewhere, and either it does not get there or the journey goes on from there. -/
theorem travel_step (most : Nat) (request : Request) {peer next : Peer} {action : PeerAction}
    (answered : peer.answer = (some action, next)) :
    travel detours userAgent most request peer =
        { result := request.outcome (some action), peer := next, followed := [] } ∨
      ∃ reply, action = .reply reply ∧ reply.IsRedirection ∧
        ((∃ fault, travel detours userAgent most request peer =
            { result := .error (.transport fault), peer := next, followed := [] }) ∨
          ∃ fewer onward, most = fewer + 1 ∧
            request.next? detours (reply.seen request.method) = some onward ∧
            travel detours userAgent most request peer =
              { travel detours userAgent fewer onward next with
                followed := onward.received userAgent ::
                  (travel detours userAgent fewer onward next).followed }) := by
  rw [travel, answered]
  cases goesOn : request.onward? detours (some action) with
  | none => exact Or.inl (by simp only [goesOn])
  | some onward =>
      obtain ⟨reply, same, redirects, asked⟩ := Request.onward?_some goesOn
      refine Or.inr ⟨reply, Option.some.inj same, redirects, ?_⟩
      simp only [goesOn]
      cases most with
      | zero => exact Or.inl ⟨_, rfl⟩
      | succ fewer =>
          cases blocked : next.obstacle? onward.url with
          | some fault => exact Or.inl ⟨fault, rfl⟩
          | none => exact Or.inr ⟨fewer, onward, rfl, asked, rfl⟩

/-- How a journey ends for a request with this method: by an action of the peer, or, without
one, because the client does not get to where it was sent. -/
def Journey.Ends (last : Option PeerAction) (method : Text) (result : Except StorageError Response) :
    Prop :=
  match last with
  | none => ∃ fault, result = .error (.transport fault)
  | some .hangUp => ∃ url, result = .error (.transport (.noReply url))
  | some (.reply reply) => result = .ok (reply.seen method)

theorem Request.outcome_ends (request : Request) (action : PeerAction) :
    Journey.Ends (some action) request.method (request.outcome (some action)) := by
  cases action with
  | hangUp => exact ⟨_, rfl⟩
  | reply reply => rfl

theorem Journey.Ends.congr {last : Option PeerAction} {first second : Text}
    {result : Except StorageError Response} (ends : Ends last first result)
    (same : first = "HEAD" ↔ second = "HEAD") : Ends last second result := by
  match last, ends with
  | none, failed => exact failed
  | some .hangUp, failed => exact failed
  | some (.reply reply), ended => exact ended.trans (congrArg Except.ok (reply.seen_congr same))

/-- The journey passed over these replies, each of which sent the client elsewhere, and made one
more request for each, but for the last where the client did not get there. -/
structure Journey.Passes (journey : Journey) (method : Text) (peer : Peer) (passed : List Reply)
    (last : Option PeerAction) : Prop where
  answers : peer.Answers (passed.map .reply ++ last.toList) journey.peer
  redirections : ∀ reply ∈ passed, reply.IsRedirection
  ends : Ends last method journey.result
  followed : passed.length = journey.followed.length + (if last.isSome then 0 else 1)
  methods : ∀ received ∈ journey.followed,
    received.method = method ∨ received.method = "GET".toList

/-- A reply that was passed over in front. -/
theorem Journey.Passes.cons {rest : Journey} {method : Text} {peer next : Peer} {reply : Reply}
    {passed : List Reply} {last : Option PeerAction} {received : Received}
    (passes : rest.Passes received.method next passed last) (redirects : reply.IsRedirection)
    (answered : peer.answer = (some (.reply reply), next))
    (same : received.method = method ∨ received.method = "GET".toList)
    (head : received.method = "HEAD" ↔ method = "HEAD") :
    Journey.Passes { rest with followed := received :: rest.followed } method peer
      (reply :: passed) last where
  answers := .cons answered passes.answers
  redirections := List.forall_mem_cons.mpr ⟨redirects, passes.redirections⟩
  ends := passes.ends.congr head
  followed := by
    have shorter := passes.followed
    rw [List.length_cons, List.length_cons, shorter]
    omega
  methods := by
    refine List.forall_mem_cons.mpr ⟨same, fun other member => ?_⟩
    rcases passes.methods other member with old | anew
    · rw [old]
      exact same
    · exact Or.inr anew

/-- Every journey passes over some replies, with at most as many further requests as it may
make. -/
theorem travel_passes (most : Nat) (request : Request) {peer : Peer} (there : peer ≠ .unreachable) :
    ∃ passed last,
      (travel detours userAgent most request peer).Passes request.method peer passed last ∧
        (travel detours userAgent most request peer).followed.length ≤ most := by
  induction most using Nat.strongRecOn generalizing request peer with
  | ind most ih =>
      obtain ⟨action, met, stillThere⟩ := Peer.answer_of_there there
      have answered : peer.answer = (some action, peer.answer.2) := Prod.ext met rfl
      rcases travel_step detours userAgent most request answered with ended |
        ⟨reply, rfl, redirects, ⟨fault, lost⟩ | ⟨fewer, onward, rfl, asked, went⟩⟩
      · rw [ended]
        exact ⟨[], some action, ⟨.cons answered (.nil _), List.forall_mem_nil _,
          request.outcome_ends action, rfl, List.forall_mem_nil _⟩, Nat.zero_le _⟩
      · rw [lost]
        exact ⟨[reply], none, ⟨.cons answered (.nil _), List.forall_mem_singleton.mpr redirects,
          ⟨fault, rfl⟩, rfl, List.forall_mem_nil _⟩, Nat.zero_le _⟩
      · obtain ⟨same, head⟩ := Request.next?_method asked
        obtain ⟨passed, last, passes, short⟩ :=
          ih fewer (Nat.lt_succ_self fewer) onward stillThere
        rw [went]
        exact ⟨reply :: passed, last, passes.cons redirects answered same head,
          Nat.succ_le_succ short⟩

end Travel

end FileShare
