import FileShare.Proofs.Clock
import FileShare.Proofs.Session
import FileShare.Proofs.Text.Decimal
import FileShare.Scratch.Naming

/-!
# When generated names differ

A run is a list of calls of the generators, in the order in which they took
their numbers, each with the thread and the clock reading that it had.  Calls
that return a name have different numbers as long as there are no more calls
than numbers.  Their names are the same only if one name ends in the whole
number of its call where the other one has some figures of it in front: the
number is written without padding and without a mark before it.
-/

set_option autoImplicit false

namespace FileShare

namespace Naming

/-- What can be called for a name. -/
inductive Generator where
  | nameFor (start caller : Text)
  | name (start : Text)
  | shareName
  | directoryName
  | fileName
deriving DecidableEq, Repr

def Generator.run : Generator -> Run Failure Text
  | .nameFor start caller => generateFor start caller
  | .name start => generate start
  | .shareName => generate sharePrefix
  | .directoryName => generate directoryPrefix
  | .fileName => generate filePrefix

/-- How the names of the generator begin on a thread: prefix and caller. -/
def Generator.stem (thread : Option Text) : Generator -> Text
  | .nameFor start caller => start ++ sanitize caller
  | .name start => start ++ sanitize (callerOf thread)
  | .shareName => sharePrefix ++ sanitize (callerOf thread)
  | .directoryName => directoryPrefix ++ sanitize (callerOf thread)
  | .fileName => filePrefix ++ sanitize (callerOf thread)

/-- A call of a generator, with the name of its thread and what the clock shows it. -/
structure Call where
  generator : Generator
  thread : Option Text
  now : Instant
deriving DecidableEq, Repr

namespace Call

def stem (call : Call) : Text := call.generator.stem call.thread

/-- The name up to its number: prefix, caller and time. -/
def front (call : Call) : Text := call.stem ++ stamp call.now

def name (call : Call) (number : UInt64) : Text := call.front ++ Text.decimal number.toNat

/-- The call in a session that has the thread and the clock of the call. -/
def run (call : Call) (session : Session) : Except Failure Text × Session :=
  call.generator.run { session with thread := call.thread, now := call.now }

end Call

def runCalls : Session -> List Call -> List (Except Failure Text)
  | _, [] => []
  | session, call :: rest =>
      let (result, after) := call.run session
      result :: runCalls after rest

/-- How many of the first calls took a number. -/
def taken (calls : List Call) (count : Nat) : Nat :=
  (calls.take count).countP fun call => decide call.now.IsDate

def numberAt (session : Session) (calls : List Call) (place : Nat) : UInt64 :=
  session.sequence + UInt64.ofNat (taken calls place)

theorem generateFor_of_isDate (start caller : Text) (session : Session)
    (date : session.now.IsDate) :
    generateFor start caller session =
      (.ok (compose start caller session.now session.sequence),
        { session with sequence := session.sequence + 1 }) := by
  simp [generateFor, Instant.dated_of_isDate date]

theorem generateFor_of_not_isDate (start caller : Text) (session : Session)
    (noDate : ¬ session.now.IsDate) :
    ∃ failure, generateFor start caller session = (.error failure, session) := by
  obtain ⟨fault, stopped⟩ := Instant.dated_of_not_isDate noDate
  exact ⟨.stopped fault.message, by simp [generateFor, stopped]⟩

theorem generate_apply (start : Text) (session : Session) :
    generate start session = generateFor start (callerOf session.thread) session := by
  simp [generate]

theorem generate_of_isDate (start : Text) {session : Session} (date : session.now.IsDate) :
    generate start session =
      (.ok (compose start (callerOf session.thread) session.now session.sequence),
        { session with sequence := session.sequence + 1 }) := by
  rw [generate_apply, generateFor_of_isDate _ _ _ date]

/-- A clock that shows no date stops the call with its own message. -/
theorem generate_of_not_isDate (start : Text) {session : Session} (noDate : ¬ session.now.IsDate) :
    ∃ fault, session.now.dated = .error fault ∧
      generate start session = (.error (.stopped fault.message), session) := by
  obtain ⟨fault, stopped⟩ := Instant.dated_of_not_isDate noDate
  exact ⟨fault, stopped, by simp [generate, generateFor, stopped]⟩

theorem Generator.run_apply (generator : Generator) (session : Session) :
    ∃ start caller, generator.run session = generateFor start caller session ∧
      generator.stem session.thread = start ++ sanitize caller := by
  cases generator with
  | nameFor start caller => exact ⟨start, caller, rfl, rfl⟩
  | name start => exact ⟨start, _, generate_apply start session, rfl⟩
  | shareName => exact ⟨sharePrefix, _, generate_apply sharePrefix session, rfl⟩
  | directoryName => exact ⟨directoryPrefix, _, generate_apply directoryPrefix session, rfl⟩
  | fileName => exact ⟨filePrefix, _, generate_apply filePrefix session, rfl⟩

/-- A call at a date returns the name with the next number, and the number moves on. -/
theorem Call.run_of_isDate {call : Call} (date : call.now.IsDate) (session : Session) :
    (call.run session).1 = .ok (call.name session.sequence) ∧
      (call.run session).2.sequence = session.sequence + 1 := by
  obtain ⟨start, caller, run, stem⟩ :=
    call.generator.run_apply { session with thread := call.thread, now := call.now }
  rw [Call.run, run, generateFor_of_isDate start caller _ date, Call.name, Call.front, Call.stem,
    stem]
  exact ⟨rfl, rfl⟩

theorem Call.run_of_not_isDate {call : Call} (noDate : ¬ call.now.IsDate) (session : Session) :
    (call.run session).2.sequence = session.sequence := by
  obtain ⟨start, caller, run, -⟩ :=
    call.generator.run_apply { session with thread := call.thread, now := call.now }
  obtain ⟨failure, stopped⟩ := generateFor_of_not_isDate start caller
    { session with thread := call.thread, now := call.now } noDate
  rw [Call.run, run, stopped]

theorem numberAt_succ (session : Session) (first : Call) (rest : List Call) (later : Nat) :
    numberAt session (first :: rest) (later + 1) = numberAt (first.run session).2 rest later := by
  rw [numberAt, numberAt, taken, taken, List.take_succ_cons, List.countP_cons]
  by_cases date : first.now.IsDate
  · rw [(Call.run_of_isDate date session).2, if_pos (decide_eq_true date), UInt64.ofNat_add,
      UInt64.add_assoc, UInt64.add_comm (UInt64.ofNat _)]
    rfl
  · rw [Call.run_of_not_isDate date session, decide_eq_false date]
    rfl

theorem runCalls_of_isDate {calls : List Call} {place : Nat} {call : Call}
    (called : calls[place]? = some call) (date : call.now.IsDate) (session : Session) :
    (runCalls session calls)[place]? = some (.ok (call.name (numberAt session calls place))) := by
  induction calls generalizing session place with
  | nil => exact absurd called (Option.some_ne_none call).symm
  | cons first rest ih =>
      cases place with
      | zero =>
          obtain rfl := Option.some.inj called
          simp [runCalls, (Call.run_of_isDate date session).1, numberAt, taken]
      | succ later =>
          rw [runCalls, List.getElem?_cons_succ, numberAt_succ]
          exact ih called (first.run session).2

theorem taken_lt {calls : List Call} {place later : Nat} {call : Call}
    (called : calls[place]? = some call) (date : call.now.IsDate) (before : place < later) :
    taken calls place < taken calls later := by
  have next : taken calls (place + 1) = taken calls place + 1 := by
    rw [taken, List.take_add_one, called, List.countP_append, Option.toList_some,
      List.countP_singleton, if_pos (decide_eq_true date), taken]
  have more : taken calls (place + 1) ≤ taken calls later :=
    (List.take_sublist_take_left before).countP_le
  omega

/-- Calls at dates have different numbers as long as there are numbers enough. -/
theorem numberAt_ne {calls : List Call} {place₁ place₂ : Nat} {call₁ : Call}
    (session : Session) (few : calls.length ≤ UInt64.size) (called : calls[place₁]? = some call₁)
    (date : call₁.now.IsDate) (before : place₁ < place₂) (within : place₂ < calls.length) :
    numberAt session calls place₁ ≠ numberAt session calls place₂ := by
  have fewer := taken_lt called date before
  have bound : taken calls place₂ ≤ place₂ :=
    Nat.le_trans List.countP_le_length (List.length_take_le _ _)
  intro same
  have values := congrArg UInt64.toNat same
  simp only [numberAt, UInt64.toNat_add, UInt64.toNat_ofNat'] at values
  rw [UInt64.size] at few
  omega

theorem length_stamp {now : Instant} (nanoseconds : now.nanoseconds < 1000000000) :
    (stamp now).length = 13 := by
  have minute : now.minute < Nat.pow 10 2 := by
    rw [Instant.minute]
    exact Nat.lt_of_lt_of_le (Nat.mod_lt _ (by decide)) (by decide : 60 ≤ Nat.pow 10 2)
  have second : now.second < Nat.pow 10 2 := by
    rw [Instant.second]
    exact Nat.lt_of_lt_of_le (Nat.mod_lt _ (by decide)) (by decide : 60 ≤ Nat.pow 10 2)
  rw [stamp, List.length_append, List.length_append, Text.length_decimalPadded (by omega) minute,
    Text.length_decimalPadded (by omega) second,
    Text.length_decimalPadded (by omega) nanoseconds]

theorem mem_stamp {now : Instant} {c : Char} (member : c ∈ stamp now) :
    Text.isAsciiDigit c = true := by
  simp only [stamp, List.mem_append] at member
  rcases member with (minute | second) | nanosecond
  · exact Text.mem_decimalPadded minute
  · exact Text.mem_decimalPadded second
  · exact Text.mem_decimalPadded nanosecond

/-- The front of the call goes on with figures where the other front ends, and the other
number has these figures in front of the number of the call. -/
def Call.Absorbs (call : Call) (number : UInt64) (other : Call) (otherNumber : UInt64) : Prop :=
  ∃ figures, figures ≠ [] ∧ call.front = other.front ++ figures ∧
    Text.decimal otherNumber.toNat = figures ++ Text.decimal number.toNat

def EndsInFigure (text : Text) : Prop := ∃ c, text.getLast? = some c ∧ Text.isAsciiDigit c = true

/-- The stem of the call that absorbs figures is the longer one and ends in a figure. -/
theorem Call.Absorbs.stem {call other : Call} {number otherNumber : UInt64}
    (absorbs : call.Absorbs number other otherNumber)
    (nanoseconds : call.now.nanoseconds < 1000000000)
    (otherNanoseconds : other.now.nanoseconds < 1000000000) :
    other.stem.length < call.stem.length ∧ EndsInFigure call.stem := by
  obtain ⟨figures, some, fronts, number⟩ := absorbs
  have width := length_stamp nanoseconds
  have otherWidth := length_stamp otherNanoseconds
  have long : 0 < figures.length := List.length_pos_iff.mpr some
  -- The times are equally wide, so the longer front has the longer stem, and what it has
  -- beyond the other stem stands within the time and the figures of the other call.
  have lengths := congrArg List.length fronts
  simp only [Call.front, List.length_append] at lengths
  refine ⟨by omega, ?_⟩
  rw [Call.front, Call.front, List.append_assoc, List.append_eq_append_iff] at fronts
  rcases fronts with ⟨rest, stem, -⟩ | ⟨rest, stem, figuresOf⟩
  · have shorter := congrArg List.length stem
    rw [List.length_append] at shorter
    omega
  · have longer := congrArg List.length stem
    rw [List.length_append] at longer
    have present : rest ≠ [] := by
      rintro rfl
      rw [List.length_nil] at longer
      omega
    refine ⟨rest.getLast present, ?_, ?_⟩
    · rw [stem, List.getLast?_append, List.getLast?_eq_some_getLast present, Option.some_or]
    · have member : rest.getLast present ∈ stamp other.now ++ figures := by
        rw [figuresOf]
        exact List.mem_append_left _ (List.getLast_mem present)
      rcases List.mem_append.mp member with stamped | figure
      · exact mem_stamp stamped
      · apply Text.mem_decimal (n := otherNumber.toNat)
        rw [number]
        exact List.mem_append_left _ figure

/-- Names with different numbers are the same only where figures change sides. -/
theorem Call.name_eq_iff {call₁ call₂ : Call} {number₁ number₂ : UInt64}
    (different : number₁ ≠ number₂) :
    call₁.name number₁ = call₂.name number₂ ↔
      call₁.Absorbs number₁ call₂ number₂ ∨ call₂.Absorbs number₂ call₁ number₁ := by
  have apart : Text.decimal number₁.toNat ≠ Text.decimal number₂.toNat :=
    fun same => different (UInt64.toNat_inj.mp (Text.decimal_injective same))
  rw [Call.name, Call.name, List.append_eq_append_iff]
  constructor
  · rintro (⟨figures, front, number⟩ | ⟨figures, front, number⟩)
    · have some : figures ≠ [] := by
        rintro rfl
        exact apart number
      exact Or.inr ⟨figures, some, front, number⟩
    · have some : figures ≠ [] := by
        rintro rfl
        exact apart number.symm
      exact Or.inl ⟨figures, some, front, number⟩
  · rintro (⟨figures, -, front, number⟩ | ⟨figures, -, front, number⟩)
    · exact Or.inr ⟨figures, front, number⟩
    · exact Or.inl ⟨figures, front, number⟩

/-- Two calls of a run return the same name exactly if figures change sides between
time and number, and then the prefix and caller of one of them end in a figure. -/
theorem generated_names_eq_iff (session : Session) {calls : List Call}
    (few : calls.length ≤ UInt64.size)
    (nanoseconds : ∀ call ∈ calls, call.now.nanoseconds < 1000000000)
    {place₁ place₂ : Nat} {call₁ call₂ : Call} (different : place₁ ≠ place₂)
    (called₁ : calls[place₁]? = some call₁) (called₂ : calls[place₂]? = some call₂)
    (date₁ : call₁.now.IsDate) (date₂ : call₂.now.IsDate) :
    ∃ name₁ name₂, (runCalls session calls)[place₁]? = some (.ok name₁) ∧
      (runCalls session calls)[place₂]? = some (.ok name₂) ∧
      (name₁ = name₂ ↔
        call₁.Absorbs (numberAt session calls place₁) call₂ (numberAt session calls place₂) ∨
          call₂.Absorbs (numberAt session calls place₂) call₁ (numberAt session calls place₁)) ∧
      (name₁ = name₂ -> call₁.stem.length ≠ call₂.stem.length ∧
        (EndsInFigure call₁.stem ∨ EndsInFigure call₂.stem)) := by
  have numbers : numberAt session calls place₁ ≠ numberAt session calls place₂ := by
    rcases Nat.lt_or_gt_of_ne different with before | after
    · exact numberAt_ne session few called₁ date₁ before (List.getElem?_eq_some_iff.mp called₂).1
    · exact (numberAt_ne session few called₂ date₂ after
        (List.getElem?_eq_some_iff.mp called₁).1).symm
  have nanoseconds₁ := nanoseconds call₁ (List.mem_of_getElem? called₁)
  have nanoseconds₂ := nanoseconds call₂ (List.mem_of_getElem? called₂)
  refine ⟨_, _, runCalls_of_isDate called₁ date₁ session, runCalls_of_isDate called₂ date₂ session,
    Call.name_eq_iff numbers, fun same => ?_⟩
  rcases (Call.name_eq_iff numbers).mp same with absorbs | absorbs
  · obtain ⟨longer, figure⟩ := absorbs.stem nanoseconds₁ nanoseconds₂
    exact ⟨by omega, Or.inl figure⟩
  · obtain ⟨longer, figure⟩ := absorbs.stem nanoseconds₂ nanoseconds₁
    exact ⟨by omega, Or.inr figure⟩

/-- Eleven calls in one tick of the clock, from two threads. -/
def elevenCalls : List Call :=
  let now : Instant := ⟨671, 111111111⟩
  ⟨.shareName, some "test_share1", now⟩ :: List.replicate 10 ⟨.shareName, some "test_share", now⟩

/-- A session in which no name was generated so far. -/
def firstSession : Session :=
  { now := ⟨0, 0⟩, settings := [], thread := none, sequence := 0, peer := .unreachable
    detours := fun _ _ _ => none, log := [], received := [], followed := [] }

/-- Calls of one thread get different names in one tick. -/
theorem generated_names_eq_iff_one_thread :
    ∃ name₁ name₂, (runCalls firstSession elevenCalls)[1]? = some (.ok name₁) ∧
      (runCalls firstSession elevenCalls)[10]? = some (.ok name₂) ∧ name₁ ≠ name₂ := by
  obtain ⟨name₁, name₂, result₁, result₂, -, same⟩ :=
    generated_names_eq_iff firstSession (show elevenCalls.length ≤ UInt64.size by decide)
      (by decide) (show 1 ≠ 10 by decide) rfl rfl (by decide) (by decide)
  exact ⟨name₁, name₂, result₁, result₂, fun equal => (same equal).1 rfl⟩

/-- The number does not keep all calls of one tick apart. -/
theorem generated_names_collide_eleven :
    ¬ ∀ (session : Session) (calls : List Call) (place₁ place₂ : Nat) (name₁ name₂ : Text),
      calls.length ≤ UInt64.size -> (∀ call ∈ calls, call.now.nanoseconds < 1000000000) ->
      place₁ ≠ place₂ -> (runCalls session calls)[place₁]? = some (.ok name₁) ->
      (runCalls session calls)[place₂]? = some (.ok name₂) -> name₁ ≠ name₂ := by
  intro distinct
  have first : (runCalls firstSession elevenCalls)[0]? =
      some (.ok "rsshare111111111111110".toList) := by rfl
  have last : (runCalls firstSession elevenCalls)[10]? =
      some (.ok "rsshare111111111111110".toList) := by rfl
  exact distinct firstSession elevenCalls 0 10 _ _ (by decide) (by decide) (by decide) first
    last rfl

end Naming

end FileShare
