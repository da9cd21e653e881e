import FileShare.Config.Account
import FileShare.Proofs.Codec.Base64
import FileShare.Proofs.Session
import FileShare.Proofs.Text.Blank
import FileShare.Proofs.Text.Utf8

/-!
# What the variables hold

A variable holds a text if its value is the bytes of the text and the text is more than blanks.
It holds one text at most.  A variable without a value, one whose value is no text and one of
blanks are all the same to the configuration: they hold nothing.
-/

set_option autoImplicit false

namespace FileShare

namespace Settings

/-- The variable is set to a text that is not blank. -/
structure Holds (settings : Settings) (name value : Text) : Prop where
  bytes : settings.lookup name = some (Text.Utf8.encode value)
  filled : ∃ c ∈ value, Text.isBlank c = false

theorem Holds.unique {settings : Settings} {name first second : Text}
    (holds : settings.Holds name first) (other : settings.Holds name second) : first = second := by
  have same := holds.bytes.symm.trans other.bytes
  exact Text.Utf8.encode_injective (Option.some.inj same)

theorem text?_eq_some_iff {settings : Settings} {name value : Text} :
    settings.text? name = some value ↔
      settings.lookup name = some (Text.Utf8.encode value) := by
  rw [text?, Option.bind_eq_some_iff]
  constructor
  · rintro ⟨bytes, given, read⟩
    rw [given, Text.Utf8.decode?_eq_some_iff.mp read]
  · intro given
    exact ⟨_, given, Text.Utf8.decode?_eq_some_iff.mpr rfl⟩

theorem filled?_eq_some_iff {settings : Settings} {name value : Text} :
    settings.filled? name = some value ↔ settings.Holds name value := by
  have blank : Text.trim value = [] ↔ ∀ c ∈ value, Text.isBlank c = true :=
    Text.trimBy_eq_nil_iff
  rw [filled?, Option.filter_eq_some_iff, text?_eq_some_iff, Bool.not_eq_true',
    ← Bool.not_eq_true, List.isEmpty_iff, blank]
  constructor
  · rintro ⟨bytes, more⟩
    exact ⟨bytes, by simpa using more⟩
  · intro holds
    exact ⟨holds.bytes, by simpa using holds.filled⟩

theorem filled?_eq_none_iff {settings : Settings} {name : Text} :
    settings.filled? name = none ↔ ∀ value, ¬ settings.Holds name value := by
  simp only [← filled?_eq_some_iff, Option.eq_none_iff_forall_ne_some, ne_eq]

theorem filled?_congr {first second : Settings} {name : Text}
    (same : first.lookup name = second.lookup name) :
    first.filled? name = second.filled? name := by
  rw [filled?, filled?, text?, text?, same]

/-! ## Endpoints -/

theorem endpoint?_of_holds {settings : Settings} {name value : Text}
    (holds : settings.Holds name value) :
    settings.endpoint? name =
      match Url.parse (Text.trim value) with
      | .ok url => .ok (some url)
      | .error fault => .error (.config (.malformedEndpoint name (Text.trim value) fault)) := by
  have given := filled?_eq_some_iff.mpr holds
  cases read : Url.parse (Text.trim value) with
  | error fault => simp only [endpoint?, given, read]
  | ok url => simp only [endpoint?, given, read]

theorem endpoint?_of_empty {settings : Settings} {name : Text}
    (empty : ∀ value, ¬ settings.Holds name value) : settings.endpoint? name = .ok none := by
  rw [endpoint?, filled?_eq_none_iff.mpr empty]

theorem holds_or_empty (settings : Settings) (name : Text) :
    (∃ value, settings.Holds name value) ∨ ∀ value, ¬ settings.Holds name value := by
  rw [← not_exists]
  exact Classical.em _

theorem endpoint?_eq_ok_iff {settings : Settings} {name : Text} {url : Url} :
    settings.endpoint? name = .ok (some url) ↔
      ∃ value, settings.Holds name value ∧ Url.parse (Text.trim value) = .ok url := by
  rcases settings.holds_or_empty name with ⟨value, holds⟩ | empty
  · rw [endpoint?_of_holds holds]
    constructor
    · intro found
      cases read : Url.parse (Text.trim value) with
      | error fault =>
          rw [read] at found
          cases found
      | ok root =>
          rw [read] at found
          cases found
          exact ⟨value, holds, read⟩
    · rintro ⟨other, same, read⟩
      rw [holds.unique same, read]
  · rw [endpoint?_of_empty empty]
    constructor
    · intro found
      cases found
    · rintro ⟨value, holds, -⟩
      exact absurd holds (empty value)

theorem config_of_endpoint? {settings : Settings} {name : Text} {error : StorageError}
    (refused : settings.endpoint? name = .error error) : ∃ fault, error = .config fault := by
  rw [endpoint?] at refused
  split at refused
  · cases refused
  · split at refused
    · cases refused
    · cases refused
      exact ⟨_, rfl⟩

theorem endpoint?_congr {first second : Settings} {name : Text}
    (same : first.lookup name = second.lookup name) :
    first.endpoint? name = second.endpoint? name := by
  rw [endpoint?, endpoint?, filled?_congr same]

end Settings

/-! ## Environments -/

namespace Environment

theorem parse_of_ofSettings {settings : Settings} {endpoint : Url}
    (chosen : ofSettings settings = .ok (.fixed endpoint)) :
    ∃ text, Url.parse text = .ok endpoint := by
  rw [ofSettings] at chosen
  cases found : settings.endpoint? endpointVariable with
  | error error =>
      rw [found] at chosen
      cases chosen
  | ok given =>
      rw [found] at chosen
      cases given with
      | none => cases chosen
      | some url =>
          cases chosen
          obtain ⟨value, -, read⟩ := Settings.endpoint?_eq_ok_iff.mp found
          exact ⟨_, read⟩

theorem config_of_ofSettings {settings : Settings} {error : StorageError}
    (refused : ofSettings settings = .error error) : ∃ fault, error = .config fault :=
  Settings.config_of_endpoint? (error_of_map refused)

theorem config_of_secondary {settings : Settings} {error : StorageError}
    (refused : secondary settings = .error error) : ∃ fault, error = .config fault := by
  rw [secondary] at refused
  split at refused
  · rename_i other found
    cases refused
    exact Settings.config_of_endpoint? found
  · cases refused
  · exact config_of_ofSettings refused

theorem ofSettings_congr {first second : Settings}
    (same : first.lookup endpointVariable = second.lookup endpointVariable) :
    ofSettings first = ofSettings second := by
  rw [ofSettings, ofSettings, Settings.endpoint?_congr same]

theorem secondary_congr {first second : Settings}
    (own : first.lookup secondaryEndpointVariable = second.lookup secondaryEndpointVariable)
    (shared : first.lookup endpointVariable = second.lookup endpointVariable) :
    secondary first = secondary second := by
  rw [secondary, secondary, Settings.endpoint?_congr own, ofSettings_congr shared]

end Environment

/-! ## Accounts and their keys -/

namespace Account

theorem ofSettings?_eq_some_iff {settings : Settings} {nameVariable keyVariable : Text}
    {account : Account} :
    ofSettings? settings nameVariable keyVariable = some account ↔
      settings.Holds nameVariable account.name ∧ settings.Holds keyVariable account.key := by
  rw [← Settings.filled?_eq_some_iff, ← Settings.filled?_eq_some_iff, ofSettings?]
  constructor
  · intro found
    split at found
    · rename_i name key named keyed
      cases found
      exact ⟨named, keyed⟩
    · cases found
  · rintro ⟨named, keyed⟩
    rw [named, keyed]

theorem ofSettings?_congr {first second : Settings} {nameVariable keyVariable : Text}
    (name : first.lookup nameVariable = second.lookup nameVariable)
    (key : first.lookup keyVariable = second.lookup keyVariable) :
    ofSettings? first nameVariable keyVariable = ofSettings? second nameVariable keyVariable := by
  rw [ofSettings?, ofSettings?, Settings.filled?_congr name, Settings.filled?_congr key]

end Account

namespace Credential

/-- A key text is accepted exactly if it is the one way to write some key, between blanks. -/
theorem ofText_eq_ok_iff {accountName keyText : Text} {credential : Credential} :
    ofText accountName keyText = .ok credential ↔
      accountName ≠ [] ∧ credential.accountName = accountName ∧
        Base64.encodeText credential.key = Text.trim keyText := by
  have canonical (key : Bytes) :
      Base64.decode (Text.Utf8.encode (Text.trim keyText)) = .ok key ↔
        Base64.encodeText key = Text.trim keyText := by
    rw [Base64.decode_eq_ok_iff, ← Base64.utf8_encodeText]
    exact ⟨Text.Utf8.encode_injective, congrArg Text.Utf8.encode⟩
  rw [ofText]
  cases accountName with
  | nil => simp
  | cons c rest =>
      simp only [List.isEmpty_cons, Bool.false_eq_true, if_false, ne_eq, reduceCtorEq,
        not_false_eq_true, true_and]
      constructor
      · intro made
        split at made
        · cases made
        · rename_i key read
          cases made
          exact ⟨rfl, (canonical key).mp read⟩
      · rintro ⟨named, written⟩
        rw [(canonical credential.key).mpr written, ← named]

theorem config_of_ofText {accountName keyText : Text} {error : StorageError}
    (refused : ofText accountName keyText = .error error) : ∃ fault, error = .config fault := by
  rw [ofText] at refused
  split at refused
  · cases refused
    exact ⟨_, rfl⟩
  · split at refused
    · cases refused
      exact ⟨_, rfl⟩
    · cases refused

end Credential

end FileShare
