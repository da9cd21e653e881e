import FileShare.Proofs.Url.Child
import FileShare.Url.Parser

/-!
# Roots that hold shares

A name behind a path with segments is one more segment under every scheme, with one exception:
in first place of the path of a file a drive letter is brought into its form with a colon.  So
a URL tells the names behind it apart unless it has a bare path, which holds nothing, or is the
root of a file system, where a letter with a bar is the letter with a colon.
-/

set_option autoImplicit false

namespace FileShare.Url

/-- A name as a path segment of a URL with a given scheme. -/
def segmentUnder (scheme name : Text) : Text :=
  Percent.encode (Percent.inSegmentSet (isSpecialScheme scheme)) name

section Segments

variable (scheme : Text)

theorem decodeText_segmentUnder (name : Text) :
    Percent.decodeText (segmentUnder scheme name) = Text.Utf8.encode name :=
  Percent.decodeText_encode (by simp [Percent.inSegmentSet]) name

theorem segmentUnder_injective {first second : Text}
    (same : segmentUnder scheme first = segmentUnder scheme second) : first = second :=
  Percent.encode_injective (by simp [Percent.inSegmentSet]) same

theorem isSingleDot_segmentUnder {name : Text} (notSelf : name ≠ ".") :
    isSingleDot (segmentUnder scheme name) = false := by
  apply eq_false_of_ne_true
  intro dot
  apply notSelf
  apply Text.Utf8.encode_injective
  rw [← decodeText_segmentUnder scheme, decodeText_of_isSingleDot dot]

theorem isDoubleDot_segmentUnder {name : Text} (notParent : name ≠ "..") :
    isDoubleDot (segmentUnder scheme name) = false := by
  apply eq_false_of_ne_true
  intro dots
  apply notParent
  apply Text.Utf8.encode_injective
  rw [← decodeText_segmentUnder scheme, decodeText_of_isDoubleDot dots]

end Segments

/-! ## Children of any URL -/

/-- Whether a name behind the segments comes in first place of the path of a file. -/
def OnFileRoot (scheme : Text) (segments : List Text) : Prop :=
  scheme = "file" ∧ openSegments (withoutEmptyEnd segments) = []

/-- Behind everything else an addressable name is one more segment. -/
theorem childSegments_added {scheme name : Text} {segments : List Text}
    (addressable : Addressable name) (placed : ¬ OnFileRoot scheme segments) :
    childSegments scheme segments name =
      openSegments (withoutEmptyEnd segments) ++ [segmentUnder scheme name] := by
  have notDots : ¬(name = "." ∨ name = "..") := fun dots =>
    dots.elim addressable.notSelf addressable.notParent
  have noDrive : (scheme == "file" && (openSegments (withoutEmptyEnd segments)).isEmpty) = false := by
    apply eq_false_of_ne_true
    simpa [OnFileRoot] using placed
  have spelled : Percent.encode (Percent.inSegmentSet (isSpecialScheme scheme)) name =
      segmentUnder scheme name := rfl
  simp only [childSegments, if_neg notDots, OpenPath.addText, noDrive, Bool.false_eq_true,
    if_false, counted_eq_self addressable.counted, spelled, OpenPath.add,
    isDoubleDot_segmentUnder scheme addressable.notParent,
    isSingleDot_segmentUnder scheme addressable.notSelf, Bool.false_and]

theorem child_added {url : Url} {segments : List Text} {name : Text}
    (path : url.path = .segments segments) (addressable : Addressable name)
    (placed : ¬ OnFileRoot url.scheme segments) :
    url.child name =
      { url with
        path := .segments
          (openSegments (withoutEmptyEnd segments) ++ [segmentUnder url.scheme name]) } := by
  simp only [child, path, childSegments_added addressable placed]

theorem lastName_child {url : Url} {segments : List Text} {name : Text}
    (path : url.path = .segments segments) (addressable : Addressable name)
    (placed : ¬ OnFileRoot url.scheme segments) : (url.child name).lastName = name := by
  have full : segmentUnder url.scheme name ≠ [] :=
    mt Percent.encode_eq_nil_iff.mp addressable.nonempty
  have found : (openSegments (withoutEmptyEnd segments) ++
      [segmentUnder url.scheme name]).reverse.find? (!·.isEmpty) =
        some (segmentUnder url.scheme name) := by
    rw [List.reverse_concat, List.find?_cons_of_pos]
    simp [full]
  rw [child_added path addressable placed]
  simp only [lastName, Url.segments, found, decodeText_segmentUnder, Text.Utf8.decode_encode]

theorem child_toText_inj {url : Url} {segments : List Text} {first second : Text}
    (path : url.path = .segments segments) (one : Addressable first) (other : Addressable second)
    (placed : ¬ OnFileRoot url.scheme segments)
    (same : (url.child first).toText = (url.child second).toText) : first = second := by
  rw [child_added path one placed, child_added path other placed] at same
  simp only [toText, throughPath, pathText, UrlPath.toText, List.flatMap_append,
    List.flatMap_singleton] at same
  have paths := List.append_cancel_left (List.append_cancel_right (List.append_cancel_right same))
  have segments := (List.cons.inj (List.append_cancel_left paths)).2
  exact segmentUnder_injective url.scheme segments

/-! ## The root of a file system -/

/-- On the root of a file system a drive letter has one form for its two spellings. -/
theorem child_drive {url : Url} {segments : List Text} (path : url.path = .segments segments)
    (placed : OnFileRoot url.scheme segments) :
    url.child "C|" = url.child "C:" ∧ (url.child "C|").lastName = "C:".toList := by
  obtain ⟨file, first⟩ := placed
  have drive {name : Text} (spelling : name = "C|" ∨ name = "C:") :
      childSegments "file" segments name = ["C:".toList] := by
    simp only [childSegments, first]
    rcases spelling with rfl | rfl
    · rw [if_neg (by decide)]
      decide
    · rw [if_neg (by decide)]
      decide
  simp only [child, path, file, drive (Or.inl rfl), drive (Or.inr rfl), lastName, Url.segments]
  exact ⟨trivial, by decide⟩

/-! ## What reading gives -/

theorem withoutEmptyStart_cases (segments : List Text) :
    withoutEmptyStart segments = [[]] ∨
      ∃ first rest, withoutEmptyStart segments = first :: rest ∧ first ≠ [] := by
  simp only [withoutEmptyStart]
  cases left : segments.dropWhile (·.isEmpty) with
  | nil => exact Or.inl rfl
  | cons first rest =>
      have full := List.head?_dropWhile_not (·.isEmpty) segments
      simp only [left, List.head?_cons] at full
      exact Or.inr ⟨first, rest, rfl, by simpa using full⟩

/-- The path of a file that is read leaves the first place free only if it is a slash. -/
theorem openSegments_withoutEmptyStart {segments : List Text} :
    openSegments (withoutEmptyEnd (withoutEmptyStart segments)) = [] ↔
      withoutEmptyStart segments = [[]] := by
  rcases withoutEmptyStart_cases segments with root | ⟨first, rest, given, full⟩
  · rw [root]
    decide
  · have notRoot : (first :: rest) ≠ [[]] := fun root => full (List.cons.inj root).1
    rw [given]
    refine ⟨fun free => ?_, fun root => absurd root notRoot⟩
    rw [withoutEmptyEnd, openSegments] at free
    cases rest with
    | nil => simp [full] at free
    | cons second more =>
        split at free
        · simp [full] at free
        · simp at free

theorem readAfterSlashes_path {scheme text : Text} {url : Url}
    (read : readAfterSlashes scheme text = .ok url) :
    url.scheme = scheme ∧ ∃ segments, url.path = .segments segments := by
  simp only [readAfterSlashes] at read
  split at read
  · cases read
  · cases read
    exact ⟨rfl, _, rfl⟩

theorem readFile_path {text : Text} {url : Url} (read : readFile text = .ok url) :
    url.scheme = "file" ∧ ∃ segments, url.path = .segments (withoutEmptyStart segments) := by
  simp only [readFile] at read
  split at read
  · simp only [readFileAfterSlashes] at read
    split at read
    · cases read
      exact ⟨rfl, _, rfl⟩
    · split at read
      · cases read
      · cases read
        exact ⟨rfl, _, rfl⟩
  · cases read
    exact ⟨rfl, _, rfl⟩

theorem readOther_scheme {scheme text : Text} {url : Url}
    (read : readOther scheme text = .ok url) : url.scheme = scheme := by
  simp only [readOther] at read
  split at read
  · exact (readAfterSlashes_path read).1
  · cases read
    rfl

/-- Under a special scheme there are segments, and in the path of a file no empty ones come
first. -/
theorem parse_path {text : Text} {url : Url} (read : parse text = .ok url) :
    (url.scheme = "file" ∧ ∃ segments, url.path = .segments (withoutEmptyStart segments)) ∨
      url.scheme ≠ "file" ∧
        (isSpecialScheme url.scheme = true → ∃ segments, url.path = .segments segments) := by
  simp only [parse] at read
  split at read
  · cases read
  · rename_i scheme rest _
    split at read
    · exact Or.inl (readFile_path read)
    · rename_i notFile
      split at read
      · obtain ⟨same, segments⟩ := readAfterSlashes_path read
        exact Or.inr ⟨same ▸ notFile, fun _ => segments⟩
      · rename_i notSpecial
        have same := readOther_scheme read
        exact Or.inr ⟨same ▸ notFile, fun special => absurd (same ▸ special) notSpecial⟩

/-! ## The URLs that hold shares -/

/-- The path has segments, and the URL is not the root of a file system. -/
structure IsShareRoot (url : Url) : Prop where
  segments : ∃ segments, url.path = .segments segments
  noFileRoot : ¬(url.scheme = "file" ∧ url.path = .segments [[]])

/-- Every name is found again in the child that it leads to, and different names lead to
different children. -/
structure TellsNamesApart (url : Url) : Prop where
  named : ∀ name, Addressable name → (url.child name).lastName = name
  apart : ∀ first second, Addressable first → Addressable second → first ≠ second →
    (url.child first).toText ≠ (url.child second).toText

theorem tellsNamesApart_iff {text : Text} {url : Url} (read : parse text = .ok url) :
    url.TellsNamesApart ↔ url.IsShareRoot := by
  have onRoot {segments : List Text} (path : url.path = .segments segments) :
      OnFileRoot url.scheme segments ↔ url.scheme = "file" ∧ segments = [[]] := by
    rcases parse_path read with ⟨file, start, given⟩ | ⟨notFile, -⟩
    · obtain rfl := UrlPath.segments.inj (path.symm.trans given)
      exact and_congr_right fun _ => openSegments_withoutEmptyStart
    · exact ⟨fun placed => absurd placed.1 notFile, fun placed => absurd placed.1 notFile⟩
  constructor
  · intro apart
    cases path : url.path with
    | bare text =>
        -- A bare path takes no segment, and where there is none there is no last name.
        have stays : url.child "a" = url := by simp only [child, path]
        have name := apart.named "a" (by decide)
        rw [stays, lastName, Url.segments, path] at name
        cases name
    | segments segments =>
        refine ⟨⟨segments, path⟩, fun root => ?_⟩
        obtain ⟨file, root⟩ := root
        -- The name of a drive that is spelled with a bar comes back with a colon.
        have placed := (onRoot path).mpr ⟨file, UrlPath.segments.inj (path.symm.trans root)⟩
        have name := apart.named "C|" (by decide)
        rw [(child_drive path placed).2] at name
        exact absurd name (by decide)
  · rintro ⟨⟨segments, path⟩, noFileRoot⟩
    have placed : ¬ OnFileRoot url.scheme segments := by
      intro onFile
      obtain ⟨file, rfl⟩ := (onRoot path).mp onFile
      exact noFileRoot ⟨file, path⟩
    exact ⟨fun name addressable => lastName_child path addressable placed,
      fun first second one other differ same =>
        differ (child_toText_inj path one other placed same)⟩

/-- Every special scheme but that of files is one of these. -/
theorem isShareRoot_of_special {text : Text} {url : Url} (read : parse text = .ok url)
    (special : isSpecialScheme url.scheme = true) (notFile : url.scheme ≠ "file") :
    url.IsShareRoot := by
  rcases parse_path read with ⟨file, -⟩ | ⟨-, segments⟩
  · exact absurd file notFile
  · exact ⟨segments special, fun root => notFile root.1⟩

end FileShare.Url
