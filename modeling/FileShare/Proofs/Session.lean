import FileShare.Session

/-!
# Runs step by step

What a run does with a session, by the parts it is put together from.
-/

set_option autoImplicit false

namespace FileShare

@[simp] theorem ok_bind {ε α β : Type} (a : α) (next : α -> Except ε β) :
    (.ok a >>= next) = next a := rfl

@[simp] theorem error_bind {ε α β : Type} (e : ε) (next : α -> Except ε β) :
    (.error e >>= next) = .error e := rfl

theorem ok_of_bind {ε α β : Type} {first : Except ε α} {next : α -> Except ε β} {b : β}
    (success : (first >>= next) = .ok b) : ∃ a, first = .ok a ∧ next a = .ok b := by
  cases first with
  | error e => cases success
  | ok a => exact ⟨a, rfl, success⟩

theorem error_of_bind {ε α β : Type} {first : Except ε α} {next : α -> Except ε β} {e : ε}
    (failure : (first >>= next) = .error e) :
    first = .error e ∨ ∃ a, first = .ok a ∧ next a = .error e := by
  cases first with
  | error other =>
      cases failure
      exact Or.inl rfl
  | ok a => exact Or.inr ⟨a, rfl, failure⟩

theorem ok_of_isOk {ε α : Type} {result : Except ε α} (success : result.isOk = true) :
    ∃ a, result = .ok a := by
  cases result with
  | error e => cases success
  | ok a => exact ⟨a, rfl⟩

theorem error_of_isOk {ε α : Type} {result : Except ε α} (failure : result.isOk = false) :
    ∃ e, result = .error e := by
  cases result with
  | error e => exact ⟨e, rfl⟩
  | ok a => cases failure

theorem ok_of_toOption {ε α : Type} {result : Except ε α} {a : α}
    (success : result.toOption = some a) : result = .ok a := by
  cases result with
  | error e => cases success
  | ok b => exact congrArg Except.ok (Option.some.inj success)

theorem error_of_map {ε α β : Type} {f : α -> β} {result : Except ε α} {e : ε}
    (failure : result.map f = .error e) : result = .error e := by
  cases result with
  | error other => exact congrArg Except.error (Except.error.inj failure)
  | ok a => cases failure

theorem mapError_eq_ok_iff {ε δ α : Type} {f : ε -> δ} {result : Except ε α} {a : α} :
    result.mapError f = .ok a ↔ result = .ok a := by
  constructor
  · intro success
    cases result with
    | error e => cases success
    | ok b => exact congrArg Except.ok (Except.ok.inj success)
  · rintro rfl
    rfl

theorem error_of_mapError {ε δ α : Type} {f : ε -> δ} {result : Except ε α} {e : δ}
    (failure : result.mapError f = .error e) : ∃ cause, result = .error cause ∧ f cause = e := by
  cases result with
  | error cause => exact ⟨cause, rfl, Except.error.inj failure⟩
  | ok a => cases failure

namespace Run

variable {ε α β : Type}

@[simp] theorem bind_apply (run : Run ε α) (next : α -> Run ε β) (session : Session) :
    (run >>= next) session =
      match run session with
      | (.ok a, after) => next a after
      | (.error e, after) => (.error e, after) := by
  show ExceptT.bindCont next (run session).1 (run session).2 = _
  rcases run session with ⟨_ | a, after⟩
  · rfl
  · rfl

@[simp] theorem map_apply (f : α -> β) (run : Run ε α) (session : Session) :
    (f <$> run) session =
      match run session with
      | (.ok a, after) => (.ok (f a), after)
      | (.error e, after) => (.error e, after) := by
  rw [← bind_pure_comp, bind_apply]
  rfl

@[simp] theorem pure_apply (a : α) (session : Session) :
    (pure a : Run ε α) session = (.ok a, session) := rfl

@[simp] theorem throw_apply (e : ε) (session : Session) :
    (throw e : Run ε α) session = (.error e, session) := rfl

@[simp] theorem get_apply (session : Session) :
    (get : Run ε Session) session = (.ok session, session) := rfl

@[simp] theorem set_apply (after session : Session) :
    (set after : Run ε PUnit) session = (.ok (), after) := rfl

@[simp] theorem liftExcept_apply (result : Except ε α) (session : Session) :
    (liftM result : Run ε α) session = (result, session) := rfl

@[simp] theorem mapFailure_apply {δ : Type} (f : ε -> δ) (run : Run ε α) (session : Session) :
    mapFailure f run session =
      match run session with
      | (.ok a, after) => (.ok a, after)
      | (.error e, after) => (.error (f e), after) := rfl

@[simp] theorem attempt_apply {δ : Type} (run : Run ε α) (session : Session) :
    (attempt run : Run δ (Except ε α)) session = (.ok (run session).1, (run session).2) := rfl

/-- What leaves alone what is looked at of a session can follow any run. -/
theorem kept_bind {γ : Type} (view : Session -> γ) {next : α -> Run ε β}
    (quiet : ∀ a after, view (next a after).2 = view after) (run : Run ε α) (session : Session) :
    view ((run >>= next) session).2 = view (run session).2 := by
  rw [bind_apply]
  rcases run session with ⟨_ | a, after⟩
  · rfl
  · exact quiet a after

theorem kept_map {γ : Type} (view : Session -> γ) (f : α -> β) (run : Run ε α)
    (session : Session) : view ((f <$> run) session).2 = view (run session).2 := by
  rw [map_apply]
  rcases run session with ⟨_ | a, after⟩
  · rfl
  · rfl

end Run

/-- Everything that the peer has received. -/
def Session.wire (session : Session) : List Received × List Received :=
  (session.received, session.followed)

theorem Session.wire_eq {session : Session} {own others : List Received}
    (received : session.received = own) (followed : session.followed = others) :
    session.wire = (own, others) := by
  rw [wire, received, followed]

@[simp] theorem logEntry_apply {ε : Type} (level : LogLevel) (text : Text) (session : Session) :
    (logEntry level text : Run ε Unit) session =
      (.ok (), { session with log := session.log ++ [⟨level, text⟩] }) := rfl

@[simp] theorem readClock_apply (session : Session) :
    readClock session =
      match session.now.dated with
      | .ok now => (.ok now, session)
      | .error fault => (.error (.stopped fault.message), session) := by
  cases read : session.now.dated with
  | ok now => simp [readClock, read]
  | error fault => simp [readClock, read]

end FileShare
