import FileShare.Proofs.Url.Child
import FileShare.Storage.Handle

/-!
# Handles and the names that lead to them

A handle is derived from a service by a chain of names: one for the share, one
for each directory, and one for the file.  Where the names are addressable, the
chain can be read off the URL of the handle, so that two chains with one URL are
the same chain.
-/

set_option autoImplicit false

namespace FileShare

/-- What can be derived from a service. -/
inductive Handle where
  | share (share : Share)
  | directory (directory : Directory)
  | file (file : File)
deriving DecidableEq, Repr

namespace Handle

def url : Handle -> Url
  | .share target => target.url
  | .directory target => target.url
  | .file target => target.url

def pipeline : Handle -> Pipeline
  | .share target => target.pipeline
  | .directory target => target.pipeline
  | .file target => target.pipeline

def name : Handle -> Text
  | .share target => target.name
  | .directory target => target.name
  | .file target => target.name

def isRoot : Handle -> Bool
  | .directory target => target.isRoot
  | _ => false

end Handle

/-- The handles that a service gives, each with the names that lead to it, the
first one first.  A root directory takes no name. -/
inductive Service.Derives (service : Service) : List Text -> Handle -> Prop where
  | share (name : Text) : Derives service [name] (.share (service.share name))
  | root {names : List Text} {share : Share} (parent : Derives service names (.share share)) :
      Derives service names (.directory share.root)
  | top {names : List Text} {share : Share} (parent : Derives service names (.share share))
      (name : Text) : Derives service (names ++ [name]) (.directory (share.directory name))
  | directory {names : List Text} {directory : Directory}
      (parent : Derives service names (.directory directory)) (name : Text) :
      Derives service (names ++ [name]) (.directory (directory.directory name))
  | file {names : List Text} {directory : Directory}
      (parent : Derives service names (.directory directory)) (name : Text) :
      Derives service (names ++ [name]) (.file (directory.file name))

namespace Service.Derives

variable {service : Service} {names : List Text} {handle : Handle}

theorem pipeline_eq (derives : service.Derives names handle) :
    handle.pipeline = service.pipeline := by
  induction derives with
  | share name => rfl
  | root parent ih => exact ih
  | top parent name ih => exact ih
  | directory parent name ih => exact ih
  | file parent name ih => exact ih

end Service.Derives

/-! ## The URL of a derived handle -/

section Addresses

variable {service : Service} {segments : List Text}

/-- The URL of the service with the path that a chain of addressable names gives. -/
def Service.addressOf (service : Service) (segments names : List Text) : Url :=
  { service.url with path := .segments (Url.withoutOpenEnd segments ++ names.map Url.nameSegment) }

/-- One more name in a path that ends with addressable names is one more segment. -/
theorem Service.addressOf_child {names : List Text} {name : Text}
    (web : Url.IsWebScheme service.url.scheme) (closed : Url.ClosedInside segments)
    (before : ∀ name ∈ names, Url.Addressable name) (addressable : Url.Addressable name) :
    (service.addressOf segments names).child name =
      service.addressOf segments (names ++ [name]) := by
  have full : ∀ segment ∈ Url.withoutOpenEnd segments ++ names.map Url.nameSegment,
      segment ≠ [] := by
    intro segment member
    rcases List.mem_append.mp member with parent | added
    · exact Url.ne_nil_of_mem_withoutOpenEnd closed segment parent
    · obtain ⟨other, inNames, rfl⟩ := List.mem_map.mp added
      exact Url.nameSegment_ne_nil (before other inNames).nonempty
  have inside : Url.ClosedInside (Url.withoutOpenEnd segments ++ names.map Url.nameSegment) :=
    fun segment member => full segment ((List.dropLast_sublist _).subset member)
  simp only [Service.addressOf, Url.child]
  rw [Url.childSegments_of_addressable web inside addressable, Url.withoutOpenEnd_eq_self full]
  simp

theorem Service.addressOf_share {name : Text} (web : Url.IsWebScheme service.url.scheme)
    (path : service.url.path = .segments segments) (closed : Url.ClosedInside segments)
    (addressable : Url.Addressable name) :
    service.url.child name = service.addressOf segments [name] := by
  simp only [Url.child, path, Service.addressOf]
  rw [Url.childSegments_of_addressable web closed addressable]
  rfl

theorem Service.Derives.url_eq {names : List Text} {handle : Handle}
    (derives : service.Derives names handle) (web : Url.IsWebScheme service.url.scheme)
    (path : service.url.path = .segments segments) (closed : Url.ClosedInside segments)
    (addressable : ∀ name ∈ names, Url.Addressable name) :
    handle.url = service.addressOf segments names := by
  -- One more name behind names whose handle has the right URL.
  have child : ∀ {names : List Text} {name : Text} {parent : Url},
      ((∀ name ∈ names, Url.Addressable name) → parent = service.addressOf segments names) →
      (∀ other ∈ names ++ [name], Url.Addressable other) →
      parent.child name = service.addressOf segments (names ++ [name]) := by
    intro names name parent ih addressable
    have before : ∀ name ∈ names, Url.Addressable name := fun other member =>
      addressable other (List.mem_append_left [name] member)
    have last := addressable name (List.mem_append_right names (List.mem_singleton_self name))
    rw [ih before, Service.addressOf_child web closed before last]
  induction derives with
  | share name =>
      have here := addressable name (List.mem_singleton_self name)
      exact Service.addressOf_share web path closed here
  | root parent ih => exact ih addressable
  | top parent name ih => exact child ih addressable
  | directory parent name ih => exact child ih addressable
  | file parent name ih => exact child ih addressable

theorem Service.addressOf_lastName {names : List Text} {name : Text} (nonempty : name ≠ []) :
    (service.addressOf segments (names ++ [name])).lastName = name := by
  have path : (service.addressOf segments (names ++ [name])).path =
      .segments ((Url.withoutOpenEnd segments ++ names.map Url.nameSegment) ++
        [Url.nameSegment name]) := by
    simp [Service.addressOf]
  exact Url.lastName_of_segments path nonempty

/-- The name of a handle is the last one of its chain, unless it is a root directory. -/
theorem Service.Derives.name_eq {names : List Text} {handle : Handle}
    (derives : service.Derives names handle)
    (address : handle.url = service.addressOf segments names)
    (nonempty : ∀ name ∈ names, name ≠ []) :
    handle.name = if handle.isRoot then [] else names.getLastD [] := by
  have last : ∀ (names : List Text) {name : Text} {url : Url},
      url = service.addressOf segments (names ++ [name]) → name ≠ [] →
      url.lastName = (names ++ [name]).getLastD [] := by
    intro names name url address nonempty
    rw [address, Service.addressOf_lastName nonempty, List.getLastD_concat]
  cases derives with
  | share name => exact last [] address (nonempty name (by simp))
  | root parent => rfl
  | top parent name => exact last _ address (nonempty name (by simp))
  | directory parent name => exact last _ address (nonempty name (by simp))
  | file parent name => exact last _ address (nonempty name (by simp))

theorem Service.addressOf_toText_inj {names₁ names₂ : List Text}
    (same : (service.addressOf segments names₁).toText =
      (service.addressOf segments names₂).toText) : names₁ = names₂ := by
  have noSlash : ∀ {names : List Text}, ∀ segment ∈ names.map Url.nameSegment, '/' ∉ segment := by
    intro names segment member
    obtain ⟨name, _, rfl⟩ := List.mem_map.mp member
    exact Url.slash_not_mem_nameSegment name
  -- Everything but the added segments is the same text in front of them and behind them.
  have added : (names₁.map Url.nameSegment).flatMap ('/' :: ·) =
      (names₂.map Url.nameSegment).flatMap ('/' :: ·) := by
    simp only [Url.toText, Url.throughPath, Url.pathText, Service.addressOf, UrlPath.toText,
      List.flatMap_append] at same
    have paths := List.append_cancel_right (List.append_cancel_right same)
    exact List.append_cancel_left (List.append_cancel_left paths)
  have segmentsEq := Text.flatMap_cons_inj noSlash noSlash added
  exact (List.map_inj_right fun _ _ => Url.nameSegment_injective).mp segmentsEq

end Addresses

/-- A chain of addressable names is found again in the handle that it leads to: the path
of the service, without an open end, goes on with one segment for each name, which
stands for the bytes of the name; nothing else in the URL changes; and the last name
is the name of the handle.  So chains that lead to one URL are one chain. -/
theorem derived_handle_faithful {service : Service} {segments : List Text}
    (web : Url.IsWebScheme service.url.scheme) (path : service.url.path = .segments segments)
    (closed : Url.ClosedInside segments) :
    (∀ names handle, service.Derives names handle → (∀ name ∈ names, Url.Addressable name) →
      (∃ added,
        handle.url =
          { service.url with path := .segments (Url.withoutOpenEnd segments ++ added) } ∧
        added.map Percent.decodeText = names.map Text.Utf8.encode) ∧
      handle.name = if handle.isRoot then [] else names.getLastD []) ∧
    (∀ names₁ handle₁ names₂ handle₂,
      service.Derives names₁ handle₁ → (∀ name ∈ names₁, Url.Addressable name) →
      service.Derives names₂ handle₂ → (∀ name ∈ names₂, Url.Addressable name) →
      handle₁.url.toText = handle₂.url.toText → names₁ = names₂) := by
  constructor
  · intro names handle derives addressable
    have address := derives.url_eq web path closed addressable
    refine ⟨⟨names.map Url.nameSegment, address, ?_⟩, ?_⟩
    · rw [List.map_map]
      exact List.map_congr_left fun name _ => Url.decodeText_nameSegment name
    · exact derives.name_eq address fun name member => (addressable name member).nonempty
  · intro names₁ handle₁ names₂ handle₂ derives₁ addressable₁ derives₂ addressable₂ same
    rw [derives₁.url_eq web path closed addressable₁,
      derives₂.url_eq web path closed addressable₂] at same
    exact Service.addressOf_toText_inj same

def Service.sample : Service :=
  { url :=
      { scheme := "http"
        username := "user"
        password := "word"
        host := some (.domain "host")
        port := some 8080
        path := .segments ["base", []]
        isSetApart := false
        query := some "a=b"
        fragment := some "f" }
    pipeline := { credential := none, userAgent := none } }

theorem derived_handle_faithful_sample :
    Url.IsWebScheme Service.sample.url.scheme ∧ Url.ClosedInside ["base".toList, []] ∧
      ((Service.sample.share "a/b").directory "%2e..").name = "%2e..".toList ∧
      (Service.sample.share "a/b").url.toText ≠
        ((Service.sample.share "a").directory "b").url.toText := by
  have web : Url.IsWebScheme Service.sample.url.scheme := by decide
  have closed : Url.ClosedInside ["base".toList, []] := by decide
  obtain ⟨kept, alone⟩ := derived_handle_faithful web rfl closed
  have nested : Service.sample.Derives ["a/b".toList, "%2e..".toList]
      (.directory ((Service.sample.share "a/b").directory "%2e..")) := .top (.share _) _
  have one : Service.sample.Derives ["a/b".toList] (.share (Service.sample.share "a/b")) :=
    .share _
  have two : Service.sample.Derives ["a".toList, "b".toList]
      (.directory ((Service.sample.share "a").directory "b")) := .top (.share _) _
  refine ⟨web, closed, (kept _ _ nested (by decide)).2, fun same => ?_⟩
  have chains := alone _ _ _ _ one (by decide) two (by decide) same
  exact absurd chains (by decide)

end FileShare
