import FileShare.Proofs.Url.Child
import FileShare.Url.Parser

/-!
# Paths hold no controls

The path that is read from a text consists of escapes, of characters that need none, and of
drive letters.  So it holds no control, however the text looks, and neither does the path of
any URL that is derived by names.
-/

set_option autoImplicit false

namespace FileShare

/-- The text holds no control below the space. -/
def Text.IsClean (text : Text) : Prop := ∀ c ∈ text, 32 ≤ c.toNat

theorem Percent.clean_escapeChar {c : Char} (escape : isEscapeChar c = true) : 32 ≤ c.toNat := by
  simp only [isEscapeChar, Bool.or_eq_true, beq_iff_eq] at escape
  rcases escape with rfl | digit
  · decide
  · simp only [Text.hexDigit?] at digit
    split at digit
    · omega
    · split at digit
      · omega
      · split at digit
        · omega
        · cases digit

theorem Percent.clean_encode {special : Char -> Bool}
    (controls : ∀ c, inControlSet c = true → special c = true) (text : Text) :
    Text.IsClean (encode special text) := by
  intro c member
  rcases (mem_encode member).2 with ⟨-, plain⟩ | escape
  · have noControl : inControlSet c = false := by
      apply eq_false_of_ne_true
      intro control
      rw [controls c control] at plain
      cases plain
    simp only [inControlSet, Bool.or_eq_false_iff, decide_eq_false_iff_not] at noControl
    omega
  · exact clean_escapeChar escape

namespace Url

def CleanSegments (segments : List Text) : Prop := ∀ segment ∈ segments, Text.IsClean segment

theorem CleanSegments.nil : CleanSegments [] := List.forall_mem_nil _

theorem CleanSegments.append {front back : List Text} (first : CleanSegments front)
    (second : CleanSegments back) : CleanSegments (front ++ back) :=
  List.forall_mem_append.mpr ⟨first, second⟩

theorem CleanSegments.singleton {segment : Text} (clean : Text.IsClean segment) :
    CleanSegments [segment] :=
  List.forall_mem_cons.mpr ⟨clean, CleanSegments.nil⟩

theorem CleanSegments.open : CleanSegments [[]] := .singleton (List.forall_mem_nil _)

theorem CleanSegments.pathText {url : Url} {segments : List Text}
    (path : url.path = .segments segments) (clean : CleanSegments segments) :
    Text.IsClean url.pathText := by
  intro c member
  rw [Url.pathText, path, UrlPath.toText] at member
  obtain ⟨segment, place, inside⟩ := List.mem_flatMap.mp member
  rcases List.mem_cons.mp inside with rfl | inside
  · decide
  · exact clean segment place c inside

/-! ## Adding a segment -/

theorem clean_driveLetter {letter : Char} (isLetter : Text.isAsciiLetter letter = true) :
    Text.IsClean [letter, ':'] := by
  simp only [Text.isAsciiLetter, Bool.or_eq_true, Bool.and_eq_true, decide_eq_true_eq] at isLetter
  intro c member
  simp only [List.mem_cons, List.not_mem_nil, or_false] at member
  rcases member with rfl | rfl
  · omega
  · decide

theorem clean_cutDrive {text drive rest : Text}
    (cut : OpenPath.cutDrive? text = some (drive, rest)) : Text.IsClean drive := by
  simp only [OpenPath.cutDrive?] at cut
  split at cut
  · cases cut
  · split at cut
    · split at cut
      · rename_i letter
        simp only [Bool.and_eq_true] at letter
        cases cut
        exact clean_driveLetter letter.1.1
      · cases cut
    · cases cut

theorem CleanSegments.parent {segments : List Text} (clean : CleanSegments segments) :
    CleanSegments (parentSegments segments) :=
  fun segment member => clean segment (mem_of_mem_parentSegments member)

theorem clean_add {path : OpenPath} (clean : CleanSegments path.segments) {segment : Text}
    (added : Text.IsClean segment) (file isLast : Bool) :
    CleanSegments (path.add file isLast segment).segments := by
  have closed {before : List Text} (cleanBefore : CleanSegments before) :
      CleanSegments (if isLast then before ++ [[]] else before) := by
    split
    · exact cleanBefore.append .open
    · exact cleanBefore
  simp only [OpenPath.add]
  split
  · exact closed clean.parent
  · split
    · exact closed clean
    · split
      · rename_i drive
        refine .singleton ?_
        intro c member
        rcases List.mem_append.mp member with letter | colon
        · exact added c (List.mem_of_mem_take letter)
        · rw [List.mem_singleton.mp colon]
          decide
      · exact clean.append (.singleton added)

section Encode

variable {encode : Text -> Text} (encodes : ∀ text, Text.IsClean (encode text))
include encodes

theorem clean_addText {path : OpenPath} (clean : CleanSegments path.segments)
    (file isLast : Bool) (text : Text) :
    CleanSegments (path.addText file encode isLast text).segments := by
  simp only [OpenPath.addText]
  split
  · rename_i drive rest cut
    split at cut
    · exact List.forall_mem_cons.mpr 
        ⟨clean_cutDrive cut, CleanSegments.singleton (encodes rest)⟩
    · cases cut
  · exact clean_add clean (encodes _) file isLast

theorem clean_addTexts {path : OpenPath} (clean : CleanSegments path.segments) (file : Bool)
    (texts : List Text) : CleanSegments (path.addTexts file encode texts).segments := by
  induction path, texts using OpenPath.addTexts.induct file encode with
  | case1 path => exact clean
  | case2 path last => exact clean_addText encodes clean file true last
  | case3 path text rest more ih =>
      rw [OpenPath.addTexts]
      · exact ih (clean_addText encodes clean file false text)
      · exact more

end Encode

theorem clean_readPath (scheme : Text) (texts : List Text) :
    CleanSegments (readPath scheme texts).segments := by
  apply clean_addTexts
  · apply Percent.clean_encode
    intro c control
    simp [Percent.inPathSet, Percent.inFragmentSet, control]
  · exact .nil

theorem CleanSegments.withoutEmptyStart {segments : List Text} (clean : CleanSegments segments) :
    CleanSegments (withoutEmptyStart segments) := by
  simp only [Url.withoutEmptyStart]
  split
  · exact .open
  · intro segment member
    exact clean segment ((List.dropWhile_sublist _).subset member)

/-! ## Reading a URL -/

theorem clean_readAfterSlashes {scheme text : Text} {url : Url}
    (read : readAfterSlashes scheme text = .ok url) : Text.IsClean url.pathText := by
  simp only [readAfterSlashes] at read
  split at read
  · cases read
  · cases read
    exact (clean_readPath _ _).pathText rfl

theorem clean_locateFile (host : Host) {path : OpenPath} (clean : CleanSegments path.segments)
    (tail : Text) : Text.IsClean (locateFile host path tail).pathText :=
  clean.withoutEmptyStart.pathText rfl

theorem clean_readFile {text : Text} {url : Url} (read : readFile text = .ok url) :
    Text.IsClean url.pathText := by
  have located (text : Text) : Text.IsClean (locateLocal text).pathText :=
    clean_locateFile _ (clean_readPath _ _) _
  simp only [readFile] at read
  split at read
  · rename_i rest _
    simp only [readFileAfterSlashes] at read
    split at read
    · cases read
      exact located rest
    · split at read
      · cases read
      · cases read
        exact clean_locateFile _ (clean_readPath _ _) _
  · cases read
    exact located text

theorem clean_readOther {scheme text : Text} {url : Url} (read : readOther scheme text = .ok url) :
    Text.IsClean url.pathText := by
  simp only [readOther] at read
  split at read
  · exact clean_readAfterSlashes read
  · cases read
    split
    · exact (clean_readPath _ _).pathText rfl
    · exact Percent.clean_encode (fun _ control => control) _

/-- The path of a URL that is read holds no control. -/
theorem clean_parse {text : Text} {url : Url} (read : parse text = .ok url) :
    Text.IsClean url.pathText := by
  simp only [parse] at read
  split at read
  · cases read
  · split at read
    · exact clean_readFile read
    · split at read
      · exact clean_readAfterSlashes read
      · exact clean_readOther read

/-! ## Children -/

theorem CleanSegments.of_pathText {url : Url} {segments : List Text}
    (path : url.path = .segments segments) (clean : Text.IsClean url.pathText) :
    CleanSegments segments := by
  intro segment place c inside
  apply clean
  rw [Url.pathText, path, UrlPath.toText]
  exact List.mem_flatMap.mpr ⟨segment, place, List.mem_cons_of_mem '/' inside⟩

theorem CleanSegments.child {segments : List Text} (clean : CleanSegments segments)
    (scheme name : Text) : CleanSegments (childSegments scheme segments name) := by
  have parent : CleanSegments (withoutEmptyEnd segments) := by
    rw [withoutEmptyEnd]
    split
    · exact fun segment member => clean segment ((List.dropLast_sublist _).subset member)
    · exact clean
  have opened : CleanSegments (openSegments (withoutEmptyEnd segments)) := by
    rw [openSegments]
    split
    · exact .nil
    · exact parent
  simp only [childSegments]
  split
  · exact parent
  · refine clean_addText (Percent.clean_encode ?_) opened _ true name
    intro c control
    simp [Percent.inSegmentSet, Percent.inPathSet, Percent.inFragmentSet, control]

theorem clean_child {url : Url} (clean : Text.IsClean url.pathText) (name : Text) :
    Text.IsClean (url.child name).pathText := by
  cases path : url.path with
  | bare text =>
      rw [child]
      simp only [path]
      exact clean
  | segments list =>
      have segments := (CleanSegments.of_pathText path clean).child url.scheme name
      refine segments.pathText ?_
      rw [child]
      simp only [path]

end Url

end FileShare
