import FileShare.Proofs.Codec.Regrouping
import FileShare.Proofs.Config.Settings

/-!
# Accepted account keys

A key text is accepted exactly if what stands between its blanks is the standard form of some
byte string.  That byte string is the only one with this form, and it is the key that texts are
signed with.
-/

set_option autoImplicit false

namespace FileShare

namespace Base64

theorem IsStandardForm.bytes_unique {text : Text} {first second : Bytes}
    (one : IsStandardForm text first) (other : IsStandardForm text second) : first = second := by
  have written : encode first = encode second := by
    rw [← utf8_encodeText, ← utf8_encodeText, ← isStandardForm_iff.mp one,
      ← isStandardForm_iff.mp other]
  have read : decode (encode first) = decode (encode second) := congrArg decode written
  rw [decode_encode, decode_encode] at read
  exact Except.ok.inj read

end Base64

namespace Credential

theorem ofText_ok_iff_standard {accountName keyText : Text} {credential : Credential} :
    ofText accountName keyText = .ok credential ↔
      accountName ≠ [] ∧ credential.accountName = accountName ∧
        Base64.IsStandardForm (Text.trim keyText) credential.key := by
  rw [ofText_eq_ok_iff, Base64.isStandardForm_iff, eq_comm (a := Base64.encodeText credential.key)]

theorem trim_standard {front back written : Text} {key : Bytes}
    (before : ∀ c ∈ front, Text.isBlank c = true) (after : ∀ c ∈ back, Text.isBlank c = true)
    (form : Base64.IsStandardForm written key) :
    Text.trim (front ++ written ++ back) = written := by
  have visible : ∀ c ∈ written, Text.isBlank c = false := by
    intro c member
    rw [Base64.isStandardForm_iff.mp form] at member
    exact Text.not_isBlank_of_visible (Base64.mem_encodeText member)
  rw [Text.trim, Text.trimBy_append before after, Text.trimBy_of_none visible]

end Credential

/-- Accepted are the standard forms between blanks, under a name that is not empty; each byte
string has one of them and signs when it is given.  What is not accepted is a fault of the
configuration. -/
theorem key_accepted_iff (accountName keyText : Text) :
    ((∃ credential, Credential.ofText accountName keyText = .ok credential) ↔
        accountName ≠ [] ∧ ∃ key, Base64.IsStandardForm (Text.trim keyText) key) ∧
      (∀ credential, Credential.ofText accountName keyText = .ok credential ->
        credential.accountName = accountName ∧
          (∀ key, Base64.IsStandardForm (Text.trim keyText) key ↔ key = credential.key) ∧
          ∀ text, Base64.IsStandardForm (credential.sign text)
            (Hmac.digest credential.key (Text.Utf8.encode text))) ∧
      (¬ (accountName ≠ [] ∧ ∃ key, Base64.IsStandardForm (Text.trim keyText) key) ->
        ∃ fault, Credential.ofText accountName keyText = .error (.config fault)) ∧
      ∀ key, ∃ written, (∀ text, Base64.IsStandardForm text key ↔ text = written) ∧
        ∀ front back, (∀ c ∈ front, Text.isBlank c = true) ->
          (∀ c ∈ back, Text.isBlank c = true) -> accountName ≠ [] ->
          Credential.ofText accountName (front ++ written ++ back) = .ok ⟨accountName, key⟩ := by
  have accepted : (∃ credential, Credential.ofText accountName keyText = .ok credential) ↔
      accountName ≠ [] ∧ ∃ key, Base64.IsStandardForm (Text.trim keyText) key := by
    constructor
    · rintro ⟨credential, made⟩
      obtain ⟨named, -, form⟩ := Credential.ofText_ok_iff_standard.mp made
      exact ⟨named, credential.key, form⟩
    · rintro ⟨named, key, form⟩
      exact ⟨⟨accountName, key⟩, Credential.ofText_ok_iff_standard.mpr ⟨named, rfl, form⟩⟩
  refine ⟨accepted, ?_, ?_, ?_⟩
  · intro credential made
    obtain ⟨-, own, form⟩ := Credential.ofText_ok_iff_standard.mp made
    refine ⟨own, fun key => ⟨fun other => other.bytes_unique form, ?_⟩, fun text => ?_⟩
    · rintro rfl
      exact form
    · exact Base64.isStandardForm_encodeText _
  · intro refused
    cases made : Credential.ofText accountName keyText with
    | ok credential => exact absurd (accepted.mp ⟨credential, made⟩) refused
    | error error =>
        obtain ⟨fault, rfl⟩ := Credential.config_of_ofText made
        exact ⟨fault, rfl⟩
  · intro key
    refine ⟨Base64.encodeText key, fun text => Base64.isStandardForm_iff, ?_⟩
    intro front back before after named
    have form := Base64.isStandardForm_encodeText key
    refine Credential.ofText_ok_iff_standard.mpr ⟨named, rfl, ?_⟩
    rw [Credential.trim_standard before after form]
    exact form

/-- A key between a blank and a line end is accepted, and no other key has its form. -/
theorem key_accepted_sample :
    Credential.ofText "account" " SmVmZQ==\n" = .ok ⟨"account", [0x4A, 0x65, 0x66, 0x65]⟩ ∧
      ∀ key, Base64.IsStandardForm "SmVmZQ==" key ↔ key = [0x4A, 0x65, 0x66, 0x65] := by
  have made : Credential.ofText "account" " SmVmZQ==\n" =
      .ok ⟨"account", [0x4A, 0x65, 0x66, 0x65]⟩ := by rfl
  have trimmed : Text.trim " SmVmZQ==\n" = "SmVmZQ==" := by decide +kernel
  obtain ⟨-, unique, -⟩ := (key_accepted_iff "account" " SmVmZQ==\n").2.1 _ made
  rw [trimmed] at unique
  exact ⟨made, unique⟩

end FileShare
