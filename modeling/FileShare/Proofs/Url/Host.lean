import FileShare.Proofs.Session
import FileShare.Proofs.Url.Root

/-!
# Hosts of web URLs

A host under a special scheme is never the empty name, which only a file may have.  So every URL
that is read with the scheme of a web server has a host to ask.
-/

set_option autoImplicit false

namespace FileShare.Url

theorem specialHost_ne_empty {text : Text} {host : Host} (read : specialHost text = .ok host) :
    host ≠ .domain [] := by
  rintro rfl
  rw [specialHost.eq_def] at read
  split at read
  · -- What stands in brackets is an address.
    simp only [bracketedHost] at read
    split at read
    · simp only [Address.readIpv6] at read
      split at read
      · split at read
        · split at read <;> cases read
        · cases read
      · split at read
        · cases read
        · split at read
          · split at read <;> cases read
          · cases read
    · cases read
  · split at read
    · cases read
    · cases read
    · rename_i name full _
      split at read
      · simp only [Address.readIpv4] at read
        split at read <;> cases read
      · cases read
        exact full rfl

theorem readAuthority_host {scheme text : Text} {atEnd : Bool} {authority : Authority}
    {rest : Text} (special : isSpecialScheme scheme = true)
    (read : readAuthority scheme text atEnd = .ok (authority, rest)) :
    authority.host ≠ .domain [] := by
  simp only [readAuthority, special, if_true] at read
  split at read
  · cases read
  · obtain ⟨host, named, more⟩ := ok_of_bind read
    obtain ⟨⟨port, behind⟩, -, made⟩ := ok_of_bind more
    cases made
    exact specialHost_ne_empty named

theorem readAfterSlashes_hasHost {scheme text : Text} {url : Url}
    (special : isSpecialScheme scheme = true) (read : readAfterSlashes scheme text = .ok url) :
    url.hasHost = true := by
  simp only [readAfterSlashes] at read
  split at read
  · cases read
  · rename_i authority pathStart authorityRead
    cases read
    have full := readAuthority_host special authorityRead
    simpa [hasHost, assemble] using full

/-- A URL of a web server has a host. -/
theorem hasHost_of_web {text : Text} {url : Url} (read : parse text = .ok url)
    (web : IsWebScheme url.scheme) : url.hasHost = true := by
  simp only [parse] at read
  split at read
  · cases read
  · rename_i scheme rest _
    split at read
    · have file := (readFile_path read).1
      rw [file] at web
      exact absurd web (by decide)
    · split at read
      · rename_i special
        exact readAfterSlashes_hasHost special read
      · rename_i notSpecial
        exact absurd (readOther_scheme read ▸ web.isSpecial) notSpecial

end FileShare.Url
