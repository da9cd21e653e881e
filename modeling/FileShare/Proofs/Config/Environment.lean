import FileShare.Proofs.Config.Account
import FileShare.Proofs.Storage.Containment
import FileShare.Proofs.Storage.Delivery
import FileShare.Proofs.Storage.Signature
import FileShare.Proofs.Url.Parser

/-!
# Accounts in the cloud

The name of an account is a part of a text that is read as a URL.  As long as it does not end
the authority of the URL, it is the front of a host in the zone of the cloud, and every
request for the account goes to that host.  A name that ends the authority is no error: it
takes the place of the host, and the zone becomes a part of the path, the query or the
fragment.
-/

set_option autoImplicit false

namespace FileShare

/-- What follows the account in the host of its URL. -/
def Environment.cloudZone : Text := ".file.core.windows.net"

theorem Environment.isZone_cloudZone : IsZone cloudZone where
  chars := Text.forall_of_all (by decide)
  opened := by decide
  ended := by decide

/-- The URL of a service in the cloud: the host lies in the zone of the cloud, and there is
nothing else but a slash behind it. -/
structure Url.IsCloudRoot (url : Url) : Prop where
  inCloud : url.LiesIn Environment.cloudZone
  noUserInfo : url.username = [] ∧ url.password = []
  ended : url.EndsAtHost

theorem Environment.cloudUrlText_eq (account : Text) :
    cloudUrlText account = "https://" ++ account ++ (cloudZone ++ ['/']) := by
  have behind : ".file.core.windows.net/".toList = cloudZone ++ ['/'] := by decide
  exact congrArg ("https://".toList ++ account ++ ·) behind

theorem Environment.serviceRoot_cloud_cases (account : Text) :
    (∃ fault, cloud.serviceRoot account =
        .error (.config (.malformedAccountName account fault))) ∨
      ∃ root, cloud.serviceRoot account = .ok root ∧
        Url.parse ("https://" ++ account ++ (cloudZone ++ ['/'])) = .ok root := by
  rw [serviceRoot, cloudUrlText_eq]
  cases Url.parse ("https://" ++ account ++ (cloudZone ++ ['/'])) with
  | error fault => exact Or.inl ⟨fault, rfl⟩
  | ok root => exact Or.inr ⟨root, rfl, rfl⟩

theorem Environment.serviceRoot_plain {account : Text} (plain : IsPlain account) :
    ∃ root, cloud.serviceRoot account = .ok root ∧
      Url.parse ("https://" ++ account ++ (cloudZone ++ ['/'])) = .ok root ∧
      root.host = some (.domain (account ++ cloudZone)) := by
  obtain ⟨root, read, host⟩ := Url.parse_plain isZone_cloudZone plain
  refine ⟨root, ?_, read, host⟩
  rw [serviceRoot, cloudUrlText_eq, read]

theorem Url.isCloudRoot_iff {account : Text} {root : Url}
    (read : parse ("https://" ++ account ++ (Environment.cloudZone ++ ['/'])) = .ok root) :
    root.IsCloudRoot ↔ KeepsAuthority account ∧ NamesNoUser account := by
  obtain ⟨ended, inside⟩ := parse_zone Environment.isZone_cloudZone read
  constructor
  · intro isRoot
    have keeps := ended.mp isRoot.ended
    exact ⟨keeps, (inside keeps).2.mp isRoot.noUserInfo⟩
  · rintro ⟨keeps, noUser⟩
    obtain ⟨inCloud, userInfo⟩ := inside keeps
    exact ⟨inCloud, userInfo.mpr noUser, ended.mpr keeps⟩

/-! ## Requests in a zone -/

namespace Url.LiesIn

variable {zone : Text}

theorem of_bare {first second : Url} (lies : first.LiesIn zone)
    (same : first.withoutUserInfo.withoutFragment = second.withoutUserInfo.withoutFragment) :
    second.LiesIn zone where
  scheme := (congrArg Url.scheme same).symm.trans lies.scheme
  host := by
    obtain ⟨name, host, clean⟩ := lies.host
    exact ⟨name, (congrArg Url.host same).symm.trans host, clean⟩
  port := (congrArg Url.port same).symm.trans lies.port

theorem withPair {url : Url} (lies : url.LiesIn zone) (name value : Text) :
    (url.withPair name value).LiesIn zone :=
  ⟨lies.scheme, lies.host, lies.port⟩

theorem urlAt {service : Service} (lies : service.url.LiesIn zone) (segments : List Text) :
    (service.urlAt segments).LiesIn zone :=
  ⟨lies.scheme, lies.host, lies.port⟩

theorem prepared {operation : Operation} (lies : operation.url.LiesIn zone) {now : Instant}
    {request : Request} (prepares : operation.Prepares now request) : request.url.LiesIn zone := by
  have asked : operation.asked.url.LiesIn zone := by
    have arrival := operation.asked_url
    rw [Operation.arrivalUrl] at arrival
    cases given : operation.queryPair? with
    | none =>
        rw [given] at arrival
        exact lies.of_bare arrival.symm
    | some pair =>
        rw [given] at arrival
        exact (lies.withPair pair.1 pair.2).of_bare arrival.symm
  rw [prepares.target.1]
  exact asked

end Url.LiesIn

theorem Service.Derives.liesIn {service : Service} {names : List Text} {handle : Handle}
    (derives : service.Derives names handle) {zone : Text} (lies : service.url.LiesIn zone)
    (path : service.url.path = .segments [[]]) : handle.url.LiesIn zone := by
  have web : Url.IsWebScheme service.url.scheme := Or.inr lies.scheme
  have root : service.url = service.urlAt [[]] := by rw [Service.urlAt, ← path]
  obtain ⟨segments, place, -⟩ := derives.url_at web root (by decide)
  rw [place]
  exact lies.urlAt segments

/-- In the cloud a name of an account is refused, or it gives a URL.  This is a URL of the
cloud exactly if the name neither ends the authority nor holds a user; and for a name that does
not end the authority every request goes to the cloud, whatever handle it is for.  A plain name
is not refused and gives its own host. -/
theorem cloud_account_iff (account : Account) :
    ((∃ fault, Environment.cloud.serviceRoot account.name =
        .error (.config (.malformedAccountName account.name fault))) ∨
      ∃ root, Environment.cloud.serviceRoot account.name = .ok root ∧
        (root.IsCloudRoot ↔ Url.KeepsAuthority account.name ∧ Url.NamesNoUser account.name) ∧
        (Url.KeepsAuthority account.name →
          ∀ session service, (account.serviceIn .cloud session).1 = .ok service →
            service.url = root ∧
              ∀ names (operation : Operation), service.Derives names operation.handle →
                ∀ now (prepared : Request), operation.Prepares now prepared →
                  prepared.url.LiesIn Environment.cloudZone)) ∧
      (IsPlain account.name →
        ∃ root, Environment.cloud.serviceRoot account.name = .ok root ∧ root.IsCloudRoot ∧
          root.host = some (.domain (account.name ++ Environment.cloudZone))) := by
  constructor
  · rcases Environment.serviceRoot_cloud_cases account.name with refused | ⟨root, given, read⟩
    · exact Or.inl refused
    · refine Or.inr ⟨root, given, Url.isCloudRoot_iff read, fun keeps session service made => ?_⟩
      have address := Account.url_of_serviceIn given made
      obtain ⟨ended, inside⟩ := Url.parse_zone Environment.isZone_cloudZone read
      refine ⟨address, fun names operation derives now prepared prepares => ?_⟩
      have handle := derives.liesIn (address ▸ (inside keeps).1) (address ▸ (ended.mpr keeps).path)
      rw [operation.url_handle] at handle
      exact handle.prepared prepares
  · intro plain
    obtain ⟨root, given, read, host⟩ := Environment.serviceRoot_plain plain
    have isRoot := (Url.isCloudRoot_iff read).mpr
      ⟨Url.keepsAuthority_plain plain, Url.namesNoUser_plain plain⟩
    exact ⟨root, given, isRoot, host⟩

/-- An account with a plain name, and its service in the cloud. -/
def Account.sample : Account := ⟨"account", "AQID"⟩

def Service.cloudSample : Service :=
  { url :=
      { scheme := "https"
        username := []
        password := []
        host := some (.domain "account.file.core.windows.net")
        port := none
        path := .segments [[]]
        isSetApart := false
        query := none
        fragment := none }
    pipeline := { credential := some ⟨"account", [1, 2, 3]⟩, userAgent := none } }

theorem cloud_account_iff_plain_name :
    Service.cloudSample.url.IsCloudRoot ∧
      ∃ prepared,
        (Operation.deleteShare (Service.cloudSample.share "files")).Prepares ⟨671, 111111111⟩
          prepared ∧
        prepared.url.LiesIn Environment.cloudZone := by
  have root : Environment.cloud.serviceRoot Account.sample.name = .ok Service.cloudSample.url :=
    ok_of_toOption (by decide +kernel)
  have made : (Account.sample.serviceIn .cloud Session.silentSample).1 =
      .ok Service.cloudSample := ok_of_toOption (by decide +kernel)
  obtain ⟨request, built⟩ := ok_of_isOk (show
    (Operation.deleteShare (Service.cloudSample.share "files")).request.isOk = true by
      decide +kernel)
  obtain ⟨refusedOr, plainRoot⟩ := cloud_account_iff Account.sample
  obtain ⟨url, given, isRoot, -⟩ := plainRoot (by decide)
  rw [root] at given
  cases given
  refine ⟨isRoot, ?_⟩
  rcases refusedOr with ⟨fault, refused⟩ | ⟨url, given, -, inCloud⟩
  · rw [root] at refused
    cases refused
  · rw [root] at given
    cases given
    have named : Field.isValue (Text.Utf8.encode "account") = true := by decide
    have date : Instant.IsDate ⟨671, 111111111⟩ := by decide
    have signs : (Operation.deleteShare (Service.cloudSample.share "files")).pipeline.credential =
        some ⟨"account", [1, 2, 3]⟩ := rfl
    obtain ⟨signed, prepares⟩ := Operation.prepares_of_named signs named built date
    obtain ⟨-, kept⟩ := inCloud (by decide) Session.silentSample Service.cloudSample made
    exact ⟨_, prepares, kept ["files"] _ (.share _) _ _ prepares⟩

/-- A name that ends the authority takes the place of the host. -/
theorem cloud_account_elsewhere :
    ∃ root, Environment.cloud.serviceRoot "evil.com/" = .ok root ∧
      root.toText = "https://evil.com/.file.core.windows.net/".toList ∧
      root.host = some (.domain "evil.com") ∧
      ∀ name, root.host ≠ some (.domain (name ++ Environment.cloudZone)) := by
  refine ⟨
    { scheme := "https"
      username := []
      password := []
      host := some (.domain "evil.com")
      port := none
      path := .segments [".file.core.windows.net", []]
      isSetApart := false
      query := none
      fragment := none }, ok_of_toOption (by decide +kernel), by decide +kernel, rfl, ?_⟩
  intro name same
  have lengths := congrArg List.length (Host.domain.inj (Option.some.inj same))
  have long : Environment.cloudZone.length = 22 := by decide
  have short : "evil.com".toList.length = 8 := by decide
  rw [List.length_append] at lengths
  omega

end FileShare
