import FileShare.Proofs.Storage.Derivation

/-!
# Where children lie

A handle may have any name for its child, and the child always has a URL.  It lies
inside the parent, with one more segment that is not empty, exactly if something is
left of the name without the characters that do not count and what is left is no dot
segment.  With any other name the child can be the parent itself, or lie beside it or
above it.
-/

set_option autoImplicit false

namespace FileShare

/-- What one more name gives behind the service or a handle derived from it: the URL of
the parent, the name, and the handle of the child. -/
inductive Service.Extends (service : Service) : Url -> Text -> Handle -> Prop where
  | share (name : Text) : Extends service service.url name (.share (service.share name))
  | top {names : List Text} {share : Share} (parent : service.Derives names (.share share))
      (name : Text) : Extends service share.url name (.directory (share.directory name))
  | directory {names : List Text} {directory : Directory}
      (parent : service.Derives names (.directory directory)) (name : Text) :
      Extends service directory.url name (.directory (directory.directory name))
  | file {names : List Text} {directory : Directory}
      (parent : service.Derives names (.directory directory)) (name : Text) :
      Extends service directory.url name (.file (directory.file name))

section Addresses

variable {service : Service} {segments : List Text}

def Service.urlAt (service : Service) (segments : List Text) : Url :=
  { service.url with path := .segments segments }

theorem Service.urlAt_child (web : Url.IsWebScheme service.url.scheme)
    (closed : Url.ClosedInside segments) (name : Text) :
    (service.urlAt segments).child name = service.urlAt (Url.segmentsWith segments name) := by
  simp only [Service.urlAt, Url.child]
  rw [Url.childSegments_eq web closed]

theorem Service.Derives.url_at {names : List Text} {handle : Handle}
    (derives : service.Derives names handle) (web : Url.IsWebScheme service.url.scheme)
    (root : service.url = service.urlAt segments) (closed : Url.ClosedInside segments) :
    ∃ list, handle.url = service.urlAt list ∧ Url.ClosedInside list := by
  have child : ∀ {parent : Url} (name : Text),
      (∃ list, parent = service.urlAt list ∧ Url.ClosedInside list) →
      ∃ list, parent.child name = service.urlAt list ∧ Url.ClosedInside list := by
    rintro _ name ⟨list, rfl, inside⟩
    exact ⟨_, Service.urlAt_child web inside name, inside.segmentsWith name⟩
  induction derives with
  | share name => exact child name ⟨segments, root, closed⟩
  | root parent ih => exact ih
  | top parent name ih => exact child name ih
  | directory parent name ih => exact child name ih
  | file parent name ih => exact child name ih

/-- The parent is the service or a derived handle, and the URL of the child is that of the
parent with the name. -/
theorem Service.Extends.urls {parent : Url} {name : Text} {handle : Handle}
    (step : service.Extends parent name handle) (web : Url.IsWebScheme service.url.scheme)
    (root : service.url = service.urlAt segments) (closed : Url.ClosedInside segments) :
    ∃ list, parent = service.urlAt list ∧ Url.ClosedInside list ∧
      handle.url = parent.child name := by
  cases step with
  | share name => exact ⟨segments, root, closed, rfl⟩
  | top derives name =>
      obtain ⟨list, address, inside⟩ := derives.url_at web root closed
      exact ⟨list, address, inside, rfl⟩
  | directory derives name =>
      obtain ⟨list, address, inside⟩ := derives.url_at web root closed
      exact ⟨list, address, inside, rfl⟩
  | file derives name =>
      obtain ⟨list, address, inside⟩ := derives.url_at web root closed
      exact ⟨list, address, inside, rfl⟩

end Addresses

/-- A child has the segments of its parent, without an open end, and one more that is not
empty, exactly under the names that are a segment; it then has another URL than its
parent.  What any other name leads to is told by `Url.segmentsWith`. -/
theorem child_inside_parent_iff {service : Service} {segments : List Text}
    (web : Url.IsWebScheme service.url.scheme) (path : service.url.path = .segments segments)
    (closed : Url.ClosedInside segments) {parent : Url} {name : Text} {handle : Handle}
    (step : service.Extends parent name handle) :
    ∃ before after,
      parent = { service.url with path := .segments before } ∧
      handle.url = { service.url with path := .segments after } ∧
      after = Url.segmentsWith before name ∧
      ((∃ segment, segment ≠ [] ∧ after = Url.withoutOpenEnd before ++ [segment]) ↔
        Url.NamesSegment name) ∧
      (Url.NamesSegment name → handle.url.toText ≠ parent.toText) := by
  have root : service.url = service.urlAt segments := by rw [Service.urlAt, ← path]
  obtain ⟨before, parentAt, inside, childUrl⟩ := step.urls web root closed
  have childAt : handle.url = service.urlAt (Url.segmentsWith before name) := by
    rw [childUrl, parentAt, Service.urlAt_child web inside]
  refine ⟨before, _, parentAt, childAt, rfl, Url.segmentsWith_adds_iff before name, ?_⟩
  intro names
  rw [childAt, parentAt, Url.segmentsWith_of_namesSegment names, Service.urlAt, Service.urlAt]
  exact Url.toText_ne_of_added (Url.nameSegment_ne_nil names.nonempty)

theorem child_inside_parent_iff_spaced_name :
    Url.IsWebScheme Service.sample.url.scheme ∧ Url.ClosedInside ["base".toList, []] ∧
      Service.sample.Extends (Service.sample.share "data").url "..\t.x"
        (.directory ((Service.sample.share "data").directory "..\t.x")) ∧
      ((Service.sample.share "data").directory "..\t.x").url.toText ≠
        (Service.sample.share "data").url.toText := by
  have web : Url.IsWebScheme Service.sample.url.scheme := by decide
  have closed : Url.ClosedInside ["base".toList, []] := by decide
  have step : Service.sample.Extends (Service.sample.share "data").url "..\t.x"
      (.directory ((Service.sample.share "data").directory "..\t.x")) := .top (.share _) _
  obtain ⟨before, after, -, -, -, -, another⟩ := child_inside_parent_iff web rfl closed step
  exact ⟨web, closed, step, another (by decide)⟩

/-- Two dots lead to the parent itself, two dots with a tab between them to what lies
above it, and an empty name behind another one to where it stands. -/
theorem child_outside_parent :
    ((Service.sample.share "data").directory "..").url = (Service.sample.share "data").url ∧
      (((Service.sample.share "data").directory "x").directory ".\t.").url.path =
        .segments ["base", "data", []] ∧
      (((Service.sample.share "data").directory "").directory "").url =
        ((Service.sample.share "data").directory "").url := by
  decide

end FileShare
