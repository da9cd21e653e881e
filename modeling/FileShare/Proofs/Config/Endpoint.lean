import FileShare.Proofs.Config.Settings
import FileShare.Proofs.Session
import FileShare.Proofs.Url.Root
import FileShare.Storage.Handle

/-!
# Endpoints and their shares

An endpoint is accepted if it is a URL, whatever the scheme.  With the schemes that have a host
this is enough for a service root: every share has a URL of its own and gives its name back.  A
text such as a host with a port and no scheme is a URL as well, one with a bare path, and there
all shares are the endpoint itself; and on the root of a file system two names of a drive are
one share.
-/

set_option autoImplicit false

namespace FileShare

/-- The variables give one of the accounts this endpoint. -/
def Settings.Accepts (settings : Settings) (endpoint : Url) : Prop :=
  Environment.ofSettings settings = .ok (.fixed endpoint) ∨
    Environment.secondary settings = .ok (.fixed endpoint)

theorem Settings.Accepts.parse {settings : Settings} {endpoint : Url}
    (accepts : settings.Accepts endpoint) : ∃ text, Url.parse text = .ok endpoint := by
  rcases accepts with chosen | chosen
  · exact Environment.parse_of_ofSettings chosen
  · rw [Environment.secondary] at chosen
    split at chosen
    · cases chosen
    · rename_i url found
      cases chosen
      obtain ⟨value, -, read⟩ := Settings.endpoint?_eq_ok_iff.mp found
      exact ⟨_, read⟩
    · exact Environment.parse_of_ofSettings chosen

/-- Every name is found again in its share, and different names have shares with different
URLs. -/
structure Service.AddressesShares (service : Service) : Prop where
  named : ∀ name, Url.Addressable name → (service.share name).name = name
  apart : ∀ first second, Url.Addressable first → Url.Addressable second → first ≠ second →
    (service.share first).url.toText ≠ (service.share second).url.toText

theorem Service.addressesShares_iff (service : Service) :
    service.AddressesShares ↔ service.url.TellsNamesApart :=
  ⟨fun ⟨named, apart⟩ => ⟨named, apart⟩, fun ⟨named, apart⟩ => ⟨named, apart⟩⟩

/-- An accepted endpoint addresses shares exactly if its path has segments and it is not the
root of a file system; so does every one with a scheme of the web, of sockets or of FTP.  What
is not accepted is an error of the configuration. -/
theorem endpoint_addresses_shares_iff (settings : Settings) :
    (∀ endpoint, settings.Accepts endpoint → ∀ pipeline,
      (({ url := endpoint, pipeline } : Service).AddressesShares ↔ endpoint.IsShareRoot) ∧
        (Url.isSpecialScheme endpoint.scheme = true → endpoint.scheme ≠ "file" →
          ({ url := endpoint, pipeline } : Service).AddressesShares)) ∧
    ∀ error, Environment.ofSettings settings = .error error ∨
        Environment.secondary settings = .error error →
      ∃ fault, error = .config fault := by
  constructor
  · intro endpoint accepts pipeline
    obtain ⟨text, read⟩ := accepts.parse
    have criterion : ({ url := endpoint, pipeline } : Service).AddressesShares ↔
        endpoint.IsShareRoot :=
      (Service.addressesShares_iff _).trans (Url.tellsNamesApart_iff read)
    exact ⟨criterion, fun special notFile =>
      criterion.mpr (Url.isShareRoot_of_special read special notFile)⟩
  · rintro error (refused | refused)
    · exact Environment.config_of_ofSettings refused
    · exact Environment.config_of_secondary refused

def Settings.withEndpoint (text : Text) : Settings := [(endpointVariable, Text.Utf8.encode text)]

/-- A URL with a given scheme and path and nothing else. -/
def Url.placed (scheme : Text) (host : Option Host) (path : UrlPath) : Url :=
  { scheme, username := [], password := [], host, port := none, path, isSetApart := false
    query := none, fragment := none }

theorem endpoint_addresses_shares_iff_sample :
    ({ url := Url.placed "http" (some (.domain "host")) (.segments ["base"])
       pipeline := { credential := none, userAgent := none } } : Service).AddressesShares ∧
      ¬ ({ url := Url.placed "host" none (.bare "8080")
           pipeline := { credential := none, userAgent := none } } : Service).AddressesShares ∧
      ∃ fault, Environment.ofSettings (Settings.withEndpoint "host") = .error (.config fault) := by
  have web : (Settings.withEndpoint "http://host/base").Accepts
      (Url.placed "http" (some (.domain "host")) (.segments ["base"])) :=
    Or.inl (ok_of_toOption (by decide +kernel))
  have noScheme : (Settings.withEndpoint "host:8080").Accepts
      (Url.placed "host" none (.bare "8080")) :=
    Or.inl (ok_of_toOption (by decide +kernel))
  obtain ⟨error, refused⟩ := error_of_isOk (show
    (Environment.ofSettings (Settings.withEndpoint "host")).isOk = false by decide +kernel)
  refine ⟨?_, fun addresses => ?_, ?_⟩
  · exact ((endpoint_addresses_shares_iff _).1 _ web _).2 (by decide) (by decide)
  · obtain ⟨⟨segments, path⟩, -⟩ :=
      ((endpoint_addresses_shares_iff _).1 _ noScheme _).1.mp addresses
    cases path
  · obtain ⟨fault, rfl⟩ := (endpoint_addresses_shares_iff _).2 error (Or.inl refused)
    exact ⟨fault, refused⟩

/-- A host with a port and without a scheme is accepted, and all its shares are one; and so is
the root of a file system, where two names lead to one share with one of them. -/
theorem endpoint_without_shares :
    (∃ endpoint,
      Environment.ofSettings (Settings.withEndpoint "localhost:10004") = .ok (.fixed endpoint) ∧
      ∀ pipeline first second,
        (({ url := endpoint, pipeline } : Service).share first).name = [] ∧
        (({ url := endpoint, pipeline } : Service).share first).url =
          (({ url := endpoint, pipeline } : Service).share second).url) ∧
    ∃ endpoint,
      Environment.ofSettings (Settings.withEndpoint "file:///") = .ok (.fixed endpoint) ∧
      Url.Addressable "C|" ∧ Url.Addressable "C:" ∧
      ∀ pipeline,
        (({ url := endpoint, pipeline } : Service).share "C|").name = "C:".toList ∧
        (({ url := endpoint, pipeline } : Service).share "C|").url =
          (({ url := endpoint, pipeline } : Service).share "C:").url := by
  constructor
  · exact ⟨Url.placed "localhost" none (.bare "10004"), ok_of_toOption (by decide +kernel),
      fun pipeline first second => ⟨rfl, rfl⟩⟩
  · refine ⟨Url.placed "file" (some (.domain [])) (.segments [[]]),
      ok_of_toOption (by decide +kernel), by decide, by decide, fun pipeline => ?_⟩
    have path : (Url.placed "file" (some (.domain [])) (.segments [[]])).path =
        .segments [[]] := rfl
    have drive := Url.child_drive path ⟨rfl, rfl⟩
    exact ⟨drive.2, drive.1⟩

end FileShare
