import FileShare.Proofs.Storage.Outcome
import FileShare.Proofs.Storage.Range

/-!
# Slices of a file

A server answers a request for a range with these bytes and a status that says so, or, if it does
not know ranges, with the whole file and the plain status.  A download accepts both statuses and
returns the body of either, so it returns the slice that was asked for exactly if the server knew
the range or the slice is the whole file.
-/

set_option autoImplicit false

namespace FileShare

/-- The bytes of a file from an offset on, as many as the count says or all that follow. -/
def sliceOf (content : Bytes) (offset : UInt64) (count : Option UInt64) : Bytes :=
  match count with
  | none => content.drop offset.toNat
  | some count => (content.drop offset.toNat).take count.toNat

theorem length_sliceOf_le (content : Bytes) (offset count : UInt64) :
    (sliceOf content offset (some count)).length ≤ count.toNat := by
  rw [sliceOf, List.length_take]
  exact Nat.min_le_left _ _

theorem sliceOf_eq_self_iff (content : Bytes) (offset : UInt64) (count : Option UInt64) :
    sliceOf content offset count = content ↔
      (offset = 0 ∨ content = []) ∧ ∀ most, count = some most → content.length ≤ most.toNat := by
  have start : offset = 0 ↔ offset.toNat = 0 := UInt64.toNat_inj.symm
  constructor
  · intro same
    have lengths := congrArg List.length same
    cases count with
    | none =>
        rw [sliceOf, List.length_drop] at lengths
        refine ⟨?_, fun most none => by cases none⟩
        rw [start, ← List.length_eq_zero_iff]
        omega
    | some count =>
        rw [sliceOf, List.length_take, List.length_drop] at lengths
        constructor
        · rw [start, ← List.length_eq_zero_iff]
          omega
        · rintro most ⟨⟩
          omega
  · rintro ⟨whole, short⟩
    have kept : content.drop offset.toNat = content := by
      rcases whole with rfl | rfl
      · exact List.drop_zero
      · exact List.drop_nil
    cases count with
    | none => exact kept
    | some count =>
        rw [sliceOf, kept]
        exact List.take_of_length_le (short count rfl)

/-- The reply is a success as servers may give it for a slice of a file: the slice as partial
content, or everything from a server that does not know ranges.  The body arrives whole. -/
structure Reply.Serves (reply : Reply) (content : Bytes) (offset : UInt64)
    (count : Option UInt64) : Prop where
  body : (reply.status = 206 ∧ reply.body = sliceOf content offset count) ∨
    (reply.status = 200 ∧ reply.body = content)
  whole : (reply.seen "GET").body = some reply.body

namespace Operation

variable {file : File} {offset : UInt64} {count : Option UInt64}

/-- A range is named unless everything is asked for. -/
theorem download_names_range {now : Instant} {prepared : Request}
    (prepares : (download file offset count).Prepares now prepared) :
    (prepared.received file.pipeline.userAgent).fields.values "x-ms-range" = [] ↔
      offset = 0 ∧ count = none := by
  obtain ⟨request, built, -⟩ := id prepares
  obtain ⟨pairs, given, -⟩ := request_ok built
  have named (text : Text) : Fields.values ([textField "x-ms-range" text].map Request.lowered)
      "x-ms-range" ≠ [] := List.cons_ne_nil _ _
  have values := prepares.values given rangeName_isOwn rangeName_unannounced
  rw [show (download file offset count).pipeline = file.pipeline from rfl] at values
  rw [values, List.map_eq_nil_iff]
  cases count with
  | some count =>
      obtain ⟨last, -, rest⟩ := ok_of_bind given
      obtain rfl := Except.ok.inj rest
      exact iff_of_false (named _) fun everything => by cases everything.2
  | none =>
      obtain rfl := Except.ok.inj given
      by_cases start : offset = 0
      · rw [if_pos start]
        exact iff_of_true rfl ⟨start, rfl⟩
      · rw [if_neg start]
        exact iff_of_false (named _) fun everything => start everything.1

end Operation

namespace File

/-- What is read when the request for a slice meets a reply that serves it. -/
theorem download_served {file : File} {offset : UInt64} {count : Option UInt64}
    {before : Session} {received : Received} {reply : Reply} {content : Bytes}
    (sent : (file.download offset count before).2.received = before.received ++ [received])
    (answered : before.peer.answer.1 = some (.reply reply))
    (serves : reply.Serves content offset count) :
    (file.download offset count before).1 = .ok reply.body := by
  have offered : (Operation.download file offset count).offer before =
      (Outcome.content <$> file.download offset count) before := rfl
  rw [file.download_received, ← Operation.offer_received] at sent
  rcases (Operation.download file offset count).offer_cases before with ⟨-, log, nothing⟩ |
    ⟨-, failure, log, nothing, -⟩ | ⟨-, passed, last, result, after, exchanges, meets, ended⟩
  · rw [nothing] at sent
    exact absurd sent (by simp)
  · rw [nothing] at sent
    exact absurd sent (by simp)
  · have accepted : (Operation.download file offset count).Accepts reply.status := by
      rcases serves.body with ⟨partly, -⟩ | ⟨plain, -⟩
      · exact Or.inr partly
      · exact Or.inl plain
    have stays : ¬ before.peer.Redirects := by
      rintro ⟨action, met, redirects⟩
      obtain rfl := Option.some.inj (answered.symm.trans met)
      exact Operation.not_isRedirection_of_accepts accepted redirects
    obtain ⟨rfl, action, rfl⟩ := exchanges.direct stays
    obtain rfl : action = .reply reply := by
      rw [exchanges.single.1] at answered
      exact Option.some.inj answered
    rcases meets with ⟨-, read⟩ | ⟨refused, -⟩
    · have whole : (reply.seen (Operation.download file offset count).method).body =
          some reply.body := serves.whole
      have bytes : result = .ok (.content reply.body) := by
        rw [read, Operation.read, Option.elim_some]
        simp only [whole]
      have mapped := congrArg Prod.fst (offered.symm.trans (ended.trans (by rw [bytes])))
      rcases ran : file.download offset count before with ⟨failure | found, last⟩
      · simp [ran] at mapped
      · simp only [Run.map_apply, ran] at mapped
        exact congrArg Except.ok (Outcome.content.inj (Except.ok.inj mapped))
    · exact absurd accepted refused

end File

/-- A download that is sent and served returns what the reply holds.  That is the slice if the
server knew the range, and otherwise the whole file, which is the slice only for a range that
begins with the file and is not shorter. -/
theorem download_returns_slice_iff {file : File} {offset : UInt64} {count : Option UInt64}
    {before : Session} {received : Received} {reply : Reply} {content : Bytes}
    (sent : (file.download offset count before).2.received = before.received ++ [received])
    (answered : before.peer.answer.1 = some (.reply reply))
    (serves : reply.Serves content offset count) :
    (received.fields.values "x-ms-range" = [] ↔ offset = 0 ∧ count = none) ∧
    (file.download offset count before).1 = .ok reply.body ∧
    ((file.download offset count before).1 = .ok (sliceOf content offset count) ↔
      reply.status = 206 ∨
        ((offset = 0 ∨ content = []) ∧
          ∀ most, count = some most → content.length ≤ most.toNat)) ∧
    ∀ most, count = some most →
      (reply.body.length ≤ most.toNat ↔ reply.status = 206 ∨ content.length ≤ most.toNat) := by
  have returned := File.download_served sent answered serves
  refine ⟨?_, returned, ?_, ?_⟩
  · rw [file.download_received, ← Operation.offer_received] at sent
    obtain ⟨-, prepared, prepares, rfl⟩ := Operation.prepares_of_offer sent
    exact Operation.download_names_range prepares
  · rw [returned, ← sliceOf_eq_self_iff, Except.ok.injEq]
    rcases serves.body with ⟨partly, body⟩ | ⟨plain, body⟩
    · exact iff_of_true body (Or.inl partly)
    · have full : ¬ reply.status = 206 := by omega
      rw [body, or_iff_right full]
      exact eq_comm
  · rintro most rfl
    rcases serves.body with ⟨partly, body⟩ | ⟨plain, body⟩
    · rw [body]
      exact iff_of_true (length_sliceOf_le content offset most) (Or.inl partly)
    · have full : ¬ reply.status = 206 := by omega
      rw [body, or_iff_right full]

def Session.answeringSample (status : Nat) (body : Text) : Session :=
  { Session.silentSample with
    peer := .scripted [.reply ⟨status, [], Text.asciiBytes body⟩] .hangUp }

/-- A file whose service takes no signatures. -/
def File.openSample : File := (Service.sample.share "files").root.file "a"

theorem download_returns_slice_partial :
    (File.openSample.download 5 (some 7) (Session.answeringSample 206 "default")).1 =
      .ok (sliceOf (Text.asciiBytes "file default data") 5 (some 7)) := by
  have sent : ∃ received,
      (File.openSample.download 5 (some 7) (Session.answeringSample 206 "default")).2.received =
        (Session.answeringSample 206 "default").received ++ [received] :=
    List.length_eq_one_iff.mp (by decide +kernel)
  obtain ⟨received, sent⟩ := sent
  have serves : Reply.Serves ⟨206, [], Text.asciiBytes "default"⟩
      (Text.asciiBytes "file default data") 5 (some 7) :=
    ⟨Or.inl ⟨rfl, by decide⟩, by decide⟩
  exact (download_returns_slice_iff sent rfl serves).2.2.1.mpr (Or.inl rfl)

/-- A server that does not know ranges answers a download of seven bytes with the whole file, and
this is what the download returns. -/
theorem download_returns_whole_file :
    Reply.Serves ⟨200, [], Text.asciiBytes "file default data"⟩
        (Text.asciiBytes "file default data") 5 (some 7) ∧
      (File.openSample.download 5 (some 7)
          (Session.answeringSample 200 "file default data")).1 =
        .ok (Text.asciiBytes "file default data") ∧
      sliceOf (Text.asciiBytes "file default data") 5 (some 7) = Text.asciiBytes "default" ∧
      7 < (Text.asciiBytes "file default data").length := by
  refine ⟨⟨Or.inr ⟨rfl, rfl⟩, by decide⟩, ?_, by decide, by decide⟩
  have sent : ∃ received,
      (File.openSample.download 5 (some 7)
          (Session.answeringSample 200 "file default data")).2.received = [received] :=
    List.length_eq_one_iff.mp (by decide +kernel)
  obtain ⟨received, sent⟩ := sent
  exact File.download_served sent rfl ⟨Or.inr ⟨rfl, rfl⟩, by decide⟩

end FileShare
