import FileShare.Proofs.Text.Separated
import FileShare.Proofs.Url.Percent
import FileShare.Url.Child

/-!
# Children of web URLs

A name that is addressable becomes exactly one segment at the end of the path of
its parent, and reads back from there.  Dot segments cannot arise, because an
encoded name stands for the bytes of the name, while a dot segment in any of
its spellings stands for one or two dots.
-/

set_option autoImplicit false

namespace FileShare.Url

/-- Whether the scheme is one of the two that requests are sent over. -/
def IsWebScheme (scheme : Text) : Prop := scheme = "http" ∨ scheme = "https"

instance (scheme : Text) : Decidable (IsWebScheme scheme) :=
  inferInstanceAs (Decidable (scheme = "http" ∨ scheme = "https"))

theorem IsWebScheme.isSpecial {scheme : Text} (web : IsWebScheme scheme) :
    isSpecialScheme scheme = true := by
  rcases web with rfl | rfl <;> decide

theorem IsWebScheme.ne_file {scheme : Text} (web : IsWebScheme scheme) :
    (scheme == "file") = false := by
  rcases web with rfl | rfl <;> decide

/-- The names that stand for a child of their own. -/
structure Addressable (name : Text) : Prop where
  nonempty : name ≠ []
  notSelf : name ≠ "."
  notParent : name ≠ ".."
  counted : ∀ c ∈ name, isSkipped c = false

instance (name : Text) : Decidable (Addressable name) :=
  decidable_of_iff
    (name ≠ [] ∧ name ≠ "." ∧ name ≠ ".." ∧ name.any isSkipped = false)
    ⟨fun ⟨nonempty, notSelf, notParent, counted⟩ =>
        ⟨nonempty, notSelf, notParent, fun c member => by
          simpa using List.any_eq_false.mp counted c member⟩,
      fun ⟨nonempty, notSelf, notParent, counted⟩ =>
        ⟨nonempty, notSelf, notParent, List.any_eq_false.mpr fun c member => by
          simp [counted c member]⟩⟩

/-- A name as a path segment of a web URL. -/
def nameSegment (name : Text) : Text := Percent.encode (Percent.inSegmentSet true) name

theorem decodeText_nameSegment (name : Text) :
    Percent.decodeText (nameSegment name) = Text.Utf8.encode name :=
  Percent.decodeText_encode rfl name

theorem slash_not_mem_nameSegment (name : Text) : '/' ∉ nameSegment name :=
  Percent.not_mem_encode rfl rfl name

theorem nameSegment_injective {first second : Text}
    (same : nameSegment first = nameSegment second) : first = second :=
  Percent.encode_injective rfl same

/-! ## Dot segments -/

theorem asciiLower_eq_cons_iff {segment small : Text} {d : Char}
    (noLetter : Text.isAsciiLetter d = false) :
    Text.asciiLower segment = d :: small ↔
      ∃ rest, segment = d :: rest ∧ Text.asciiLower rest = small := by
  constructor
  · intro form
    obtain ⟨c, rest, rfl, head, tail⟩ := List.map_eq_cons_iff.mp form
    obtain rfl := (Text.asciiLowerChar_eq_iff noLetter).mp head
    exact ⟨rest, rfl, tail⟩
  · rintro ⟨rest, rfl, rfl⟩
    exact congrArg (· :: _) ((Text.asciiLowerChar_eq_iff noLetter).mpr rfl)

theorem asciiLower_eq_e_cons {segment small : Text}
    (form : Text.asciiLower segment = 'e' :: small) :
    ∃ rest, (segment = 'e' :: rest ∨ segment = 'E' :: rest) ∧ Text.asciiLower rest = small := by
  obtain ⟨c, rest, rfl, head, tail⟩ := List.map_eq_cons_iff.mp form
  rcases (Text.asciiLowerChar_eq_small (by decide)).mp head with rfl | capital
  · exact ⟨rest, Or.inl rfl, tail⟩
  · have isCapital : c = 'E' := Char.toNat_inj.mp (Nat.add_right_cancel (m := 32) capital)
    exact ⟨rest, Or.inr (congrArg (· :: rest) isCapital), tail⟩

/-- A dot in small form, plain or escaped, comes from what stands for a dot. -/
theorem decodeText_dot {segment small : Text}
    (form : Text.asciiLower segment = '.' :: small ∨
      Text.asciiLower segment = '%' :: '2' :: 'e' :: small) :
    ∃ rest, Percent.decodeText segment = 46 :: Percent.decodeText rest ∧
      Text.asciiLower rest = small := by
  rcases form with plain | escaped
  · obtain ⟨rest, rfl, tail⟩ := (asciiLower_eq_cons_iff rfl).mp plain
    exact ⟨rest, Percent.decode_cons (by decide) _, tail⟩
  · obtain ⟨afterMark, rfl, form⟩ := (asciiLower_eq_cons_iff rfl).mp escaped
    obtain ⟨afterTwo, rfl, last⟩ := (asciiLower_eq_cons_iff rfl).mp form
    obtain ⟨rest, rfl | rfl, tail⟩ := asciiLower_eq_e_cons last
    · exact ⟨rest, rfl, tail⟩
    · exact ⟨rest, rfl, tail⟩

theorem decodeText_nil {segment : Text} (form : Text.asciiLower segment = []) :
    Percent.decodeText segment = [] := by
  rw [List.map_eq_nil_iff.mp form]
  rfl

theorem decodeText_of_isSingleDot {segment : Text} (dot : isSingleDot segment = true) :
    Percent.decodeText segment = Text.Utf8.encode "." := by
  simp only [isSingleDot, List.contains_iff_mem, List.mem_cons, List.not_mem_nil, or_false] at dot
  obtain ⟨rest, read, ended⟩ := decodeText_dot dot
  rw [read, decodeText_nil ended]
  rfl

theorem decodeText_of_isDoubleDot {segment : Text} (dots : isDoubleDot segment = true) :
    Percent.decodeText segment = Text.Utf8.encode ".." := by
  have twoDots : ∃ small,
      (Text.asciiLower segment = '.' :: small ∨
        Text.asciiLower segment = '%' :: '2' :: 'e' :: small) ∧
      (small = '.' :: [] ∨ small = '%' :: '2' :: 'e' :: []) := by
    simp only [isDoubleDot, List.contains_iff_mem, List.mem_cons, List.not_mem_nil,
      or_false] at dots
    rcases dots with form | form | form | form
    · exact ⟨_, Or.inl form, Or.inl rfl⟩
    · exact ⟨_, Or.inr form, Or.inr rfl⟩
    · exact ⟨_, Or.inl form, Or.inr rfl⟩
    · exact ⟨_, Or.inr form, Or.inl rfl⟩
  obtain ⟨small, first, second⟩ := twoDots
  obtain ⟨rest, readFirst, form⟩ := decodeText_dot first
  obtain ⟨nothing, readSecond, ended⟩ := decodeText_dot (form.symm ▸ second)
  rw [readFirst, readSecond, decodeText_nil ended]
  rfl

theorem isSingleDot_nameSegment {name : Text} :
    isSingleDot (nameSegment name) = true ↔ name = "." := by
  constructor
  · intro dot
    apply Text.Utf8.encode_injective
    rw [← decodeText_nameSegment, decodeText_of_isSingleDot dot]
  · rintro rfl
    decide

theorem isDoubleDot_nameSegment {name : Text} :
    isDoubleDot (nameSegment name) = true ↔ name = ".." := by
  constructor
  · intro dots
    apply Text.Utf8.encode_injective
    rw [← decodeText_nameSegment, decodeText_of_isDoubleDot dots]
  · rintro rfl
    decide

/-! ## The segments of a child -/

/-- The segments without an empty one at the end. -/
def withoutOpenEnd (segments : List Text) : List Text :=
  if segments.getLast? = some [] then segments.dropLast else segments

/-- Whether no segment is empty, except possibly the last one. -/
def ClosedInside (segments : List Text) : Prop := ∀ segment ∈ segments.dropLast, segment ≠ []

instance (segments : List Text) : Decidable (ClosedInside segments) :=
  inferInstanceAs (Decidable (∀ segment ∈ segments.dropLast, segment ≠ []))

/-- Without the open end there is no empty segment at all, so further names only add to
the segments. -/
theorem ne_nil_of_mem_withoutOpenEnd {segments : List Text} (closed : ClosedInside segments) :
    ∀ segment ∈ withoutOpenEnd segments, segment ≠ [] := by
  intro segment member
  simp only [withoutOpenEnd] at member
  split at member
  · exact closed segment member
  · rename_i notOpen
    have nonempty := List.ne_nil_of_mem member
    rw [← List.dropLast_concat_getLast nonempty] at member
    rcases List.mem_append.mp member with inside | last
    · exact closed segment inside
    · rw [List.mem_singleton.mp last]
      intro empty
      exact notOpen (by rw [List.getLast?_eq_some_getLast nonempty, empty])

/-- Only the path of one slash keeps its empty segment. -/
theorem withoutEmptyEnd_cases (segments : List Text) :
    withoutEmptyEnd segments = withoutOpenEnd segments ∨ segments = [[]] := by
  rw [withoutEmptyEnd, withoutOpenEnd]
  by_cases openEnd : segments.getLast? = some []
  · by_cases long : 2 ≤ segments.length
    · exact Or.inl (by rw [if_pos ⟨long, openEnd⟩, if_pos openEnd])
    · match segments, openEnd, long with
      | [[]], _, _ => exact Or.inr rfl
      | [_ :: _], openEnd, _ => simp at openEnd
      | _ :: _ :: _, _, long => simp at long
  · exact Or.inl (by rw [if_neg fun both => openEnd both.2, if_neg openEnd])

theorem openSegments_withoutEmptyEnd {segments : List Text} (closed : ClosedInside segments) :
    openSegments (withoutEmptyEnd segments) = withoutOpenEnd segments := by
  rcases withoutEmptyEnd_cases segments with same | rfl
  · have notRoot : withoutOpenEnd segments ≠ [[]] := fun root =>
      ne_nil_of_mem_withoutOpenEnd closed [] (root ▸ List.mem_singleton_self []) rfl
    rw [same, openSegments, if_neg notRoot]
  · rfl

theorem counted_eq_self {text : Text} (all : ∀ c ∈ text, isSkipped c = false) :
    counted text = text := by
  simp only [counted, List.filter_eq_self, Bool.not_eq_true']
  exact all

/-- The segments that a name leads to from those of the parent.  The two dot names close
an open end at most; a name that comes to one without the characters that do not count
is resolved; any other name is one more segment. -/
def segmentsWith (segments : List Text) (name : Text) : List Text :=
  if name = "." ∨ name = ".." then withoutEmptyEnd segments
  else if counted name = ".." then parentSegments (withoutOpenEnd segments) ++ [[]]
  else if counted name = "." then withoutOpenEnd segments ++ [[]]
  else withoutOpenEnd segments ++ [nameSegment (counted name)]

theorem childSegments_eq {scheme : Text} {segments : List Text} (web : IsWebScheme scheme)
    (closed : ClosedInside segments) (name : Text) :
    childSegments scheme segments name = segmentsWith segments name := by
  have spelled : Percent.encode (Percent.inSegmentSet true) (counted name) =
      nameSegment (counted name) := rfl
  simp only [childSegments, segmentsWith, OpenPath.addText, web.ne_file, web.isSpecial,
    Bool.false_and, OpenPath.add, openSegments_withoutEmptyEnd closed, spelled,
    isDoubleDot_nameSegment, isSingleDot_nameSegment, Bool.false_eq_true, if_false, if_true,
    apply_ite OpenPath.segments]

/-- The segments of a child: those of the parent and one for the name. -/
theorem childSegments_of_addressable {scheme name : Text} {segments : List Text}
    (web : IsWebScheme scheme) (closed : ClosedInside segments)
    (addressable : Addressable name) :
    childSegments scheme segments name = withoutOpenEnd segments ++ [nameSegment name] := by
  have notDots : ¬(name = "." ∨ name = "..") := fun dots =>
    dots.elim addressable.notSelf addressable.notParent
  rw [childSegments_eq web closed, segmentsWith, if_neg notDots,
    counted_eq_self addressable.counted, if_neg addressable.notParent,
    if_neg addressable.notSelf]

theorem nameSegment_ne_nil {name : Text} (nonempty : name ≠ []) : nameSegment name ≠ [] :=
  mt Percent.encode_eq_nil_iff.mp nonempty

theorem withoutOpenEnd_eq_self {segments : List Text} (full : ∀ segment ∈ segments, segment ≠ []) :
    withoutOpenEnd segments = segments := by
  have notOpen : segments.getLast? ≠ some [] := fun openEnd =>
    full [] (List.mem_of_getLast? openEnd) rfl
  rw [withoutOpenEnd, if_neg notOpen]

theorem lastName_of_segments {url : Url} {segments : List Text} {name : Text}
    (path : url.path = .segments (segments ++ [nameSegment name])) (nonempty : name ≠ []) :
    url.lastName = name := by
  have found : (segments ++ [nameSegment name]).reverse.find? (!·.isEmpty) =
      some (nameSegment name) := by
    rw [List.reverse_concat, List.find?_cons_of_pos]
    simp [nameSegment_ne_nil nonempty]
  simp only [lastName, Url.segments, path, found, decodeText_nameSegment,
    Text.Utf8.decode_encode]

/-! ## Staying inside the parent -/

/-- The names that are a segment: something is left of them without the characters that do
not count, and it is no dot segment. -/
structure NamesSegment (name : Text) : Prop where
  nonempty : counted name ≠ []
  notSelf : counted name ≠ "."
  notParent : counted name ≠ ".."

instance (name : Text) : Decidable (NamesSegment name) :=
  decidable_of_iff (counted name ≠ [] ∧ counted name ≠ "." ∧ counted name ≠ "..")
    ⟨fun ⟨nonempty, notSelf, notParent⟩ => ⟨nonempty, notSelf, notParent⟩,
      fun ⟨nonempty, notSelf, notParent⟩ => ⟨nonempty, notSelf, notParent⟩⟩

theorem segmentsWith_of_namesSegment {name : Text} (names : NamesSegment name)
    (segments : List Text) :
    segmentsWith segments name = withoutOpenEnd segments ++ [nameSegment (counted name)] := by
  have notDots : ¬(name = "." ∨ name = "..") := by
    rintro (rfl | rfl)
    · exact names.notSelf rfl
    · exact names.notParent rfl
  rw [segmentsWith, if_neg notDots, if_neg names.notParent, if_neg names.notSelf]

/-- A child has one more segment that is not empty exactly under these names. -/
theorem segmentsWith_adds_iff (segments : List Text) (name : Text) :
    (∃ segment, segment ≠ [] ∧
      segmentsWith segments name = withoutOpenEnd segments ++ [segment]) ↔
      NamesSegment name := by
  constructor
  · rintro ⟨segment, full, added⟩
    -- In every other case the path ends with an empty segment or gains none.
    have emptyEnd : ∀ front : List Text, front ++ [[]] ≠ withoutOpenEnd segments ++ [segment] := by
      intro front same
      exact full (List.cons.inj (List.append_inj_right' same rfl)).1.symm
    rw [segmentsWith] at added
    split at added
    · rcases withoutEmptyEnd_cases segments with closed | rfl
      · rw [closed] at added
        simp at added
      · exact absurd added (emptyEnd [])
    · rename_i notDots
      split at added
      · exact absurd added (emptyEnd _)
      · rename_i notParent
        split at added
        · exact absurd added (emptyEnd _)
        · rename_i notSelf
          refine ⟨fun nothing => ?_, notSelf, notParent⟩
          rw [nothing] at added
          exact absurd added (emptyEnd _)
  · intro names
    exact ⟨_, nameSegment_ne_nil names.nonempty, segmentsWith_of_namesSegment names segments⟩

theorem closedInside_concat {front : List Text} (full : ∀ segment ∈ front, segment ≠ [])
    (last : Text) : ClosedInside (front ++ [last]) := by
  intro segment member
  rw [List.dropLast_concat] at member
  exact full segment member

theorem mem_of_mem_parentSegments {segments : List Text} {segment : Text}
    (member : segment ∈ parentSegments segments) : segment ∈ segments := by
  rw [parentSegments] at member
  split at member
  · split at member
    · exact member
    · exact (List.dropLast_sublist _).subset member
  · exact absurd member List.not_mem_nil

/-- No child has an empty segment but at its end. -/
theorem ClosedInside.segmentsWith {segments : List Text} (closed : ClosedInside segments)
    (name : Text) : ClosedInside (segmentsWith segments name) := by
  have full := ne_nil_of_mem_withoutOpenEnd closed
  rw [Url.segmentsWith]
  split
  · rcases withoutEmptyEnd_cases segments with same | rfl
    · rw [same]
      exact fun segment member => full segment ((List.dropLast_sublist _).subset member)
    · decide
  · split
    · exact closedInside_concat (fun segment member => full segment
        (mem_of_mem_parentSegments member)) []
    · split
      · exact closedInside_concat full []
      · exact closedInside_concat full _

theorem withoutOpenEnd_cases (segments : List Text) :
    segments = withoutOpenEnd segments ∨ segments = withoutOpenEnd segments ++ [[]] := by
  rw [withoutOpenEnd]
  by_cases openEnd : segments.getLast? = some []
  · rw [if_pos openEnd]
    obtain ⟨front, rfl⟩ := List.getLast?_eq_some_iff.mp openEnd
    exact Or.inr (by rw [List.dropLast_concat])
  · exact Or.inl (by rw [if_neg openEnd])

/-- One more segment that is not empty makes a longer path, so the URL is another one. -/
theorem toText_ne_of_added {url : Url} {segments : List Text} {segment : Text}
    (full : segment ≠ []) :
    ({ url with path := .segments (withoutOpenEnd segments ++ [segment]) } : Url).toText ≠
      ({ url with path := .segments segments } : Url).toText := by
  intro same
  simp only [toText, throughPath, pathText, UrlPath.toText] at same
  have paths := List.append_cancel_left (List.append_cancel_right (List.append_cancel_right same))
  have added : 0 < segment.length := List.length_pos_iff.mpr full
  have length := congrArg List.length paths
  rw [List.flatMap_append, List.length_append, List.flatMap_singleton, List.length_cons] at length
  rcases withoutOpenEnd_cases segments with closed | openEnd
  · rw [← closed] at length
    omega
  · have before := congrArg (fun list => (list.flatMap ('/' :: ·)).length) openEnd
    simp only [List.flatMap_append, List.length_append, List.flatMap_singleton,
      List.length_singleton] at before
    omega

end FileShare.Url
