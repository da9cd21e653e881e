import FileShare.Proofs.Text.Blank
import FileShare.Proofs.Text.Separated
import FileShare.Proofs.Url.Child
import FileShare.Proofs.Url.DomainName

/-!
# Texts in front of a zone

What is read from `https://`, a text, a zone and a slash.  As long as the text does not end
the authority, all of it stands in front of the zone: the host lies in the zone, on the
default port, and the URL has nothing behind its host.  A text that ends the authority keeps
the zone out of the host, and then the zone is found in what follows the host.
-/

set_option autoImplicit false

namespace FileShare.Url

/-- What the authority begins with: the text without the characters that do not count, and
without slashes in front. -/
def authorityStart (text : Text) : Text :=
  (counted text).dropWhile fun c => c == '/' || c == '\\'

/-- No character of the text ends the authority. -/
def KeepsAuthority (text : Text) : Prop :=
  ∀ c ∈ authorityStart text, c ≠ '/' ∧ c ≠ '?' ∧ c ≠ '#' ∧ c ≠ '\\'

instance (text : Text) : Decidable (KeepsAuthority text) :=
  List.decidableBAll _ (authorityStart text)

/-- Nothing but a colon stands in front of the last `@` of the text, if it has one. -/
def NamesNoUser (text : Text) : Prop :=
  (splitUserInfo (authorityStart text)).1.getD [] = [] ∨
    (splitUserInfo (authorityStart text)).1.getD [] = [':']

instance (text : Text) : Decidable (NamesNoUser text) :=
  inferInstanceAs (Decidable (_ ∨ _))

theorem endsAuthority_eq_false_iff {c : Char} :
    endsAuthority true c = false ↔ c ≠ '/' ∧ c ≠ '?' ∧ c ≠ '#' ∧ c ≠ '\\' := by
  simp [endsAuthority, and_assoc]

/-! ## User info and port -/

theorem takeWhile_reverse_of_not_mem {text : Text} (free : '@' ∉ text) (before : Text) :
    (before ++ text).reverse.takeWhile (· != '@') =
      text.reverse ++ before.reverse.takeWhile (· != '@') := by
  rw [List.reverse_append, List.takeWhile_append_of_pos]
  intro c member
  rw [bne_iff_ne]
  rintro rfl
  exact free (List.mem_reverse.mp member)

theorem splitUserInfo_of_not_mem {text : Text} (free : '@' ∉ text) :
    splitUserInfo text = (none, text) := by
  have whole := takeWhile_reverse_of_not_mem free []
  rw [List.nil_append, List.reverse_nil, List.takeWhile_nil, List.append_nil] at whole
  rw [splitUserInfo, whole, List.reverse_reverse, if_pos rfl]

theorem splitUserInfo_append {host : Text} (free : '@' ∉ host) (user : Text) :
    splitUserInfo (user ++ '@' :: host) = (some user, host) := by
  have last := takeWhile_reverse_of_not_mem free (user ++ ['@'])
  rw [List.append_assoc, List.singleton_append, List.reverse_concat,
    List.takeWhile_cons_of_neg (by decide), List.append_nil] at last
  have length : (user ++ '@' :: host).length = user.length + (host.length + 1) := by
    rw [List.length_append, List.length_cons]
  have before : user.length + (host.length + 1) - host.length - 1 = user.length := by omega
  rw [splitUserInfo, last, List.reverse_reverse, if_neg (by omega), length, before,
    List.take_left]

/-- What holds no `@` belongs to the host of what it stands behind. -/
theorem splitUserInfo_append_free {rest : Text} (free : '@' ∉ rest) (text : Text) :
    ∃ user host, splitUserInfo text = (user, host) ∧
      splitUserInfo (text ++ rest) = (user, host ++ rest) ∧ ∀ c ∈ host, c ∈ text := by
  by_cases mark : '@' ∈ text
  · obtain ⟨behind, before, split, last⟩ :=
      List.eq_append_cons_of_mem (List.mem_reverse.mpr mark)
    have whole : text = before.reverse ++ '@' :: behind.reverse := by
      rw [← List.reverse_reverse text, split, List.reverse_append, List.reverse_cons,
        List.append_assoc, List.singleton_append]
    have hostFree : '@' ∉ behind.reverse := fun member => last (List.mem_reverse.mp member)
    refine ⟨some before.reverse, behind.reverse, ?_, ?_, fun c member => ?_⟩
    · rw [whole, splitUserInfo_append hostFree]
    · rw [whole, List.append_assoc, List.cons_append, splitUserInfo_append]
      exact fun member => (List.mem_append.mp member).elim hostFree free
    · rw [whole]
      exact List.mem_append_right _ (List.mem_cons_of_mem _ member)
  · refine ⟨none, text, splitUserInfo_of_not_mem mark, splitUserInfo_of_not_mem ?_,
      fun _ member => member⟩
    exact fun member => (List.mem_append.mp member).elim mark free

theorem splitPort_of_not_mem {text : Text} (free : ':' ∉ text) (bracketed : Bool) :
    splitPort bracketed text = (text, none) := by
  induction text generalizing bracketed with
  | nil => rfl
  | cons c rest ih =>
      have noMark : ¬(c = ':' ∧ bracketed = false) := fun both =>
        free (both.1 ▸ List.mem_cons_self)
      simp only [splitPort, if_neg noMark, ih fun member => free (List.mem_cons_of_mem c member)]

/-- What holds no colon belongs to the port of what it stands behind, or to the host. -/
theorem splitPort_append_free {rest : Text} (free : ':' ∉ rest) (bracketed : Bool) (text : Text) :
    (∃ host, splitPort bracketed text = (host, none) ∧
        splitPort bracketed (text ++ rest) = (host ++ rest, none)) ∨
      ∃ host port, splitPort bracketed text = (host, some port) ∧
        splitPort bracketed (text ++ rest) = (host, some (port ++ rest)) ∧
        ∀ c ∈ port, c ∈ text := by
  induction text generalizing bracketed with
  | nil => exact Or.inl ⟨[], rfl, splitPort_of_not_mem free bracketed⟩
  | cons c more ih =>
      by_cases mark : c = ':' ∧ bracketed = false
      · right
        refine ⟨[], more, ?_, ?_, fun d => List.mem_cons_of_mem c⟩
        · simp only [splitPort, if_pos mark]
        · simp only [List.cons_append, splitPort, if_pos mark]
      · rcases ih (if c = '[' then true else if c = ']' then false else bracketed) with
          ⟨host, short, long⟩ | ⟨host, port, short, long, inside⟩
        · refine Or.inl ⟨c :: host, ?_, ?_⟩
          · simp only [splitPort, if_neg mark, short]
          · simp only [List.cons_append, splitPort, if_neg mark, long]
        · refine Or.inr ⟨c :: host, port, ?_, ?_, fun d member =>
            List.mem_cons_of_mem c (inside d member)⟩
          · simp only [splitPort, if_neg mark, short]
          · simp only [List.cons_append, splitPort, if_neg mark, long]

theorem readPort_zone {zone : Text} (isZone : IsZone zone) {text : Text} (plain : '\\' ∉ text)
    (scheme : Text) : readPort scheme (text ++ zone) = .error .port := by
  -- The digits end at the point of the zone at the latest, and there no path begins.
  have point : '.' ∈ text ++ zone := by
    obtain ⟨labels, rfl⟩ := isZone.eq_cons
    exact List.mem_append_right _ List.mem_cons_self
  obtain ⟨digits, c, rest, split, all, stop⟩ :=
    Text.exists_first (p := Text.isAsciiDigit) ⟨'.', point, by decide⟩
  have noBackslash : (c == '\\') = false := by
    rw [beq_eq_false_iff_ne]
    rintro rfl
    have member : '\\' ∈ text ++ zone := by
      rw [split]
      exact List.mem_append_right _ List.mem_cons_self
    exact (List.mem_append.mp member).elim plain (isZone.plain.not_mem (by decide))
  simp only [readPort, split, Text.dropWhile_first all stop, List.head?_cons, Option.elim_some,
    noBackslash, Bool.not_false, Bool.or_true, if_true]

theorem UserInfo.ofText_eq_empty_iff {text : Text} :
    UserInfo.ofText text = ⟨[], []⟩ ↔ text = [] ∨ text = [':'] := by
  cases text with
  | nil => exact ⟨fun _ => Or.inl rfl, fun _ => rfl⟩
  | cons c rest =>
      by_cases colon : c = ':'
      · simp [UserInfo.ofText, Text.cut, colon, Percent.encode_eq_nil_iff]
      · simp [UserInfo.ofText, Text.cut, colon, Percent.encode_eq_nil_iff]

/-- A text in front of a zone is read as user info and the front of a name in the zone. -/
theorem readAuthority_zone {zone : Text} (isZone : IsZone zone) {scheme text : Text}
    (special : isSpecialScheme scheme = true) (plain : '\\' ∉ text) {atEnd : Bool}
    {authority : Authority} {rest : Text}
    (read : readAuthority scheme (text ++ zone) atEnd = .ok (authority, rest)) :
    authority.userInfo = UserInfo.ofText ((splitUserInfo text).1.getD []) ∧
      (∃ name, authority.host = .domain (name ++ zone) ∧
        ∀ c ∈ name, DomainName.isForbidden c = false) ∧
      authority.port = none ∧ rest = [] := by
  obtain ⟨user, hostPort, userShort, userLong, inText⟩ :=
    splitUserInfo_append_free (isZone.plain.not_mem (by decide)) text
  rcases splitPort_append_free (isZone.plain.not_mem (c := ':') (by decide)) false hostPort with
    ⟨host, portShort, portLong⟩ | ⟨host, port, portShort, portLong, inHost⟩
  · simp only [readAuthority, userLong, portLong, special, if_true] at read
    split at read
    · cases read
    · cases found : specialHost (host ++ zone) with
      | error fault =>
          rw [found] at read
          cases read
      | ok target =>
          rw [found] at read
          have noPort : readPort scheme [] = .ok (none, []) := rfl
          simp only [Option.getD_none, noPort] at read
          cases read
          obtain ⟨name, rfl, clean⟩ := specialHost_zone isZone found
          rw [userShort]
          exact ⟨rfl, ⟨name, rfl, clean⟩, rfl, rfl⟩
  · have noPort : readPort scheme (port ++ zone) = .error .port :=
      readPort_zone isZone (fun member => plain (inText _ (inHost _ member))) scheme
    simp only [readAuthority, userLong, portLong, special, if_true, Option.getD_some,
      noPort] at read
    split at read
    · cases read
    · cases found : specialHost host with
      | error fault =>
          rw [found] at read
          cases read
      | ok target =>
          rw [found] at read
          cases read

theorem readAuthority_plain {zone : Text} (isZone : IsZone zone) {scheme text : Text}
    (special : isSpecialScheme scheme = true) (plain : IsPlain text) (atEnd : Bool) :
    readAuthority scheme (text ++ zone) atEnd =
      .ok (⟨⟨[], []⟩, .domain (text ++ zone), none⟩, []) := by
  have whole := plain.append isZone.plain
  have noUser := splitUserInfo_of_not_mem (whole.not_mem (c := '@') (by decide))
  have noPort := splitPort_of_not_mem (whole.not_mem (c := ':') (by decide)) false
  have filled : (text ++ zone).isEmpty = false := by
    obtain ⟨labels, rfl⟩ := isZone.eq_cons
    simp
  simp only [readAuthority, noUser, noPort, special, if_true, filled, Bool.false_and,
    Bool.false_eq_true, if_false, specialHost_plain isZone plain]
  rfl

/-! ## The path -/

section Path

variable {zone : Text}

theorem counted_append (first second : Text) :
    counted (first ++ second) = counted first ++ counted second :=
  List.filter_append ..

theorem counted_zone (isZone : IsZone zone) : counted zone = zone :=
  counted_eq_self (isZone.plain.all_eq (by decide) (by decide) (by decide))

theorem getLast?_decodeText_zone (isZone : IsZone zone) (text : Text) :
    (Percent.decodeText (text ++ zone)).getLast? ≠ some 46 := by
  rw [decodeText_zone isZone]
  obtain ⟨before, c, rfl, letter⟩ := isZone.getLast
  rw [Text.asciiBytes_append, ← List.append_assoc]
  intro point
  have byte : UInt8.ofNat c.toNat = 46 :=
    Option.some.inj ((List.getLast?_concat ..).symm.trans point)
  have number := congrArg UInt8.toNat byte
  rw [Text.toNat_asciiByte (by omega)] at number
  have point : c.toNat = 46 := number
  omega

theorem no_dots_zone (isZone : IsZone zone) (text : Text) :
    isDoubleDot (text ++ zone) = false ∧ isSingleDot (text ++ zone) = false := by
  have last := getLast?_decodeText_zone isZone text
  constructor
  · refine Bool.eq_false_iff.mpr fun dots => last ?_
    rw [decodeText_of_isDoubleDot dots]
    rfl
  · refine Bool.eq_false_iff.mpr fun dot => last ?_
    rw [decodeText_of_isSingleDot dot]
    rfl

theorem pieces_zone (isZone : IsZone zone) (text : Text) :
    ∃ before last, Text.pieces '/' (text ++ (zone ++ ['/'])) = before ++ [last ++ zone, []] := by
  have free : '/' ∉ zone := isZone.plain.not_mem (by decide)
  obtain ⟨front, last, -, split⟩ := Text.pieces_append_of_not_mem free text
  refine ⟨front, last, ?_⟩
  rw [← List.append_assoc, Text.pieces_append, split, List.append_assoc]
  rfl

theorem segmentTexts_zone (isZone : IsZone zone) (text : Text) :
    ∃ before last,
      segmentTexts true (text ++ (zone ++ ['/'])) = before ++ [last ++ zone, []] := by
  have slashed : (text ++ (zone ++ ['/'])).map (fun c => if c = '\\' then '/' else c) =
      text.map (fun c => if c = '\\' then '/' else c) ++ (zone ++ ['/']) := by
    have noBackslash : '\\' ∉ zone := isZone.plain.not_mem (by decide)
    have kept : zone.map (fun c => if c = '\\' then '/' else c) = zone := by
      refine (List.map_congr_left fun c member => ?_).trans (List.map_id zone)
      exact if_neg fun same : c = '\\' => noBackslash (same ▸ member)
    rw [List.map_append, List.map_append, kept]
    rfl
  have kept : (zone ++ ['/']).dropWhile isSkipped = zone ++ ['/'] := by
    obtain ⟨labels, rfl⟩ := isZone.eq_cons
    rfl
  simp only [segmentTexts, if_true, slashed, Text.dropWhile_append_kept kept]
  generalize (text.map fun c => if c = '\\' then '/' else c).dropWhile isSkipped = start
  split
  · rename_i rest begins
    cases start with
    | nil =>
        obtain ⟨labels, rfl⟩ := isZone.eq_cons
        cases begins
    | cons c more =>
        cases begins
        exact pieces_zone isZone more
  · rename_i empty
    exact absurd (List.append_eq_nil_iff.mp (List.append_eq_nil_iff.mp empty).2).2
      (List.cons_ne_nil _ _)
  · exact pieces_zone isZone start

theorem OpenPath.addTexts_append (file : Bool) (encode : Text -> Text) {last : List Text}
    (some : last ≠ []) (texts : List Text) (path : OpenPath) :
    ∃ before : OpenPath, path.addTexts file encode (texts ++ last) =
      before.addTexts file encode last := by
  induction texts generalizing path with
  | nil => exact ⟨path, rfl⟩
  | cons text more ih =>
      have later : more ++ last ≠ [] := fun empty => some (List.append_eq_nil_iff.mp empty).2
      obtain ⟨before, reached⟩ := ih (path.addText file encode false text)
      refine ⟨before, ?_⟩
      rw [List.cons_append, OpenPath.addTexts, reached]
      exact later

theorem readPath_zone (isZone : IsZone zone) {scheme : Text} (noFile : (scheme == "file") = false)
    (texts : List Text) (last : Text) :
    (readPath scheme (texts ++ [last ++ zone, []])).segments ≠ [[]] := by
  obtain ⟨before, reached⟩ := OpenPath.addTexts_append false (Percent.encode Percent.inPathSet)
    (show [last ++ zone, []] ≠ [] from List.cons_ne_nil _ _) texts OpenPath.start
  have encoded : Percent.encode Percent.inPathSet (counted (last ++ zone)) =
      Percent.encode Percent.inPathSet (counted last) ++ zone := by
    have kept : Percent.encode Percent.inPathSet zone = zone :=
      Percent.encode_plain fun c member =>
        ⟨isZone.plain.ascii c member, isZone.plain.all_eq (by decide) (by decide) (by decide) c member⟩
    rw [counted_append, counted_zone isZone, Percent.encode_append, kept]
  obtain ⟨noDoubleDot, noSingleDot⟩ :=
    no_dots_zone isZone (Percent.encode Percent.inPathSet (counted last))
  rw [readPath, noFile, reached]
  simp only [OpenPath.addTexts, OpenPath.addText, OpenPath.add, Bool.false_and,
    Bool.false_eq_true, if_false, encoded, noDoubleDot, noSingleDot]
  -- What is left of the text behind the last slash is no dot segment either.
  rw [show Percent.encode Percent.inPathSet (counted []) = [] from rfl,
    if_neg (by decide), if_neg (by decide)]
  intro same
  have front := List.append_cancel_right (same.trans (List.nil_append [[]]).symm)
  exact List.cons_ne_nil _ _ (List.append_eq_nil_iff.mp front).2

end Path

/-! ## The URL -/

/-- The URL leads over a secure connection, on its default port, to a host in the zone. -/
structure LiesIn (zone : Text) (url : Url) : Prop where
  scheme : url.scheme = "https"
  host : ∃ name, url.host = some (.domain (name ++ zone)) ∧
    ∀ c ∈ name, DomainName.isForbidden c = false
  port : url.port = none

/-- Nothing but a slash follows the host. -/
structure EndsAtHost (url : Url) : Prop where
  path : url.path = .segments [[]]
  query : url.query = none
  fragment : url.fragment = none

theorem splitTail_cases (text : Text) :
    splitTail text = (text, []) ∨
      ∃ path mark rest, splitTail text = (path, mark :: rest) ∧ (mark = '?' ∨ mark = '#') := by
  by_cases marked : ∃ c ∈ text, (c != '?' && c != '#') = false
  · obtain ⟨path, mark, rest, rfl, before, ends⟩ := Text.exists_first marked
    refine Or.inr ⟨path, mark, rest, ?_, ?_⟩
    · rw [splitTail, Text.takeWhile_first before ends, Text.dropWhile_first before ends]
    · by_cases question : mark = '?'
      · exact Or.inl question
      · exact Or.inr (by simpa [question] using ends)
  · left
    have all : ∀ c ∈ text, (c != '?' && c != '#') = true := fun c member =>
      eq_true_of_ne_false fun stops => marked ⟨c, member, stops⟩
    rw [splitTail, Text.takeWhile_all all, Text.dropWhile_all all]

theorem readTail_marked {mark : Char} (isMark : mark = '?' ∨ mark = '#') (scheme rest : Text) :
    ¬((readTail scheme (mark :: rest)).query = none ∧
      (readTail scheme (mark :: rest)).fragment = none) := by
  rcases isMark with rfl | rfl
  · exact fun none => by simp [readTail, Text.cut] at none
  · exact fun none => by simp [readTail, Text.cut] at none

section Zone

variable {zone text : Text} {url : Url}

/-- A text that does not end the authority belongs to it with the zone behind it. -/
theorem readAfterSlashes_whole (isZone : IsZone zone)
    (keeps : ∀ c ∈ text, endsAuthority true c = false)
    (read : readAfterSlashes "https" (text ++ (zone ++ ['/'])) = .ok url) :
    url.LiesIn zone ∧ url.EndsAtHost ∧
      (⟨url.username, url.password⟩ : UserInfo) =
        UserInfo.ofText ((splitUserInfo text).1.getD []) := by
  have all : ∀ c ∈ text ++ zone, (!endsAuthority true c) = true := by
    intro c member
    rw [Bool.not_eq_true']
    exact (List.mem_append.mp member).elim (keeps c)
      (isZone.plain.all_eq (by decide) (by decide) (by decide) c)
  have plain : '\\' ∉ text := fun member => absurd (keeps _ member) (by decide)
  have special : isSpecialScheme "https" = true := by decide
  rw [readAfterSlashes, ← List.append_assoc] at read
  simp only [special, Text.takeWhile_first all (show (!endsAuthority true '/') = false by decide),
    Text.dropWhile_first all (show (!endsAuthority true '/') = false by decide)] at read
  split at read
  · cases read
  · rename_i authority pathStart found
    obtain ⟨userInfo, ⟨name, host, clean⟩, port, rfl⟩ :=
      readAuthority_zone isZone special plain found
    obtain rfl := Except.ok.inj read
    have root : readPath "https" (segmentTexts true ['/']) = ⟨[[]], false⟩ := by decide
    have path : (assemble "https" (some authority)
        (.segments (readPath "https" (segmentTexts true ['/'])).segments) []).path =
          .segments [[]] := by rw [root, assemble]
    exact ⟨⟨rfl, ⟨name, congrArg some host, clean⟩, port⟩, ⟨path, rfl, rfl⟩, userInfo⟩

/-- What follows a text that ends the authority is not the slash alone. -/
theorem readAfterSlashes_cut (isZone : IsZone zone)
    (cut : ∃ c ∈ text, endsAuthority true c = true)
    (read : readAfterSlashes "https" (text ++ (zone ++ ['/'])) = .ok url) :
    ¬url.EndsAtHost := by
  obtain ⟨front, c, rest, rfl, before, ends⟩ :=
    Text.exists_first (p := (!endsAuthority true ·)) (by simpa using cut)
  have special : isSpecialScheme "https" = true := by decide
  rw [readAfterSlashes, List.append_assoc, List.cons_append] at read
  simp only [special, Text.takeWhile_first before ends, Text.dropWhile_first before ends] at read
  split at read
  · cases read
  · rename_i authority pathStart found
    obtain rfl := Except.ok.inj read
    rintro ⟨path, query, fragment⟩
    -- Without a mark behind the cut the zone ends the last segment but one.
    rcases splitTail_cases (c :: (rest ++ (zone ++ ['/']))) with
      whole | ⟨pathText, mark, more, split, isMark⟩
    · rw [whole] at path
      obtain ⟨texts, last, split⟩ := segmentTexts_zone isZone (pathStart ++ c :: rest)
      rw [List.append_assoc, List.cons_append] at split
      rw [split] at path
      exact readPath_zone isZone (by decide) texts last (UrlPath.segments.inj path)
    · rw [split] at query fragment
      exact readTail_marked isMark "https" more ⟨query, fragment⟩

theorem parse_https (isZone : IsZone zone) (text : Text) :
    parse ("https://" ++ text ++ (zone ++ ['/'])) =
      readAfterSlashes "https" (authorityStart text ++ (zone ++ ['/'])) := by
  have edge : ∀ c ∈ zone ++ ['/'], c.toNat ≤ 0x20 → False := by
    intro c member
    rcases List.mem_append.mp member with inZone | slash
    · rcases isZone.chars c inZone with rfl | letter
      · decide
      · omega
    · rw [List.mem_singleton.mp slash]
      decide
  have begins : ∀ c ∈ "https://".toList, decide (c.toNat ≤ 0x20) = false :=
    Text.forall_of_all (by decide)
  have trimmed := Text.trimBy_between (p := fun c => decide (c.toNat ≤ 0x20)) begins (by decide)
    (fun c member => decide_eq_false (edge c member))
    (List.append_ne_nil_of_right_ne_nil zone (List.cons_ne_nil '/' [])) text
  have counts : counted ("https://" ++ (text ++ (zone ++ ['/']))) =
      "https" ++ ':' :: '/' :: '/' :: (counted text ++ (zone ++ ['/'])) := by
    rw [counted_append, counted_append, counted_append, counted_zone isZone]
    rfl
  have scheme : splitScheme? (counted ("https://" ++ (text ++ (zone ++ ['/'])))) =
      some ("https".toList, '/' :: '/' :: (counted text ++ (zone ++ ['/']))) := by
    rw [counts, splitScheme?, Text.cut_append (by decide)]
    rfl
  have kept : (zone ++ ['/']).dropWhile (fun c => c == '/' || c == '\\') = zone ++ ['/'] := by
    obtain ⟨labels, rfl⟩ := isZone.eq_cons
    rfl
  have special : isSpecialScheme "https" = true := by decide
  rw [parse, List.append_assoc]
  simp only [trimmed, scheme, special, if_true]
  rw [if_neg (by decide), List.dropWhile_cons_of_pos rfl, List.dropWhile_cons_of_pos rfl,
    Text.dropWhile_append_kept kept, authorityStart]

theorem authorityStart_plain (plain : IsPlain text) : authorityStart text = text := by
  have counts : counted text = text :=
    counted_eq_self (plain.all_eq (by decide) (by decide) (by decide))
  have noSlash : ∀ c ∈ text, (c == '/' || c == '\\') = false :=
    plain.all_eq (by decide) (by decide) (by decide)
  rw [authorityStart, counts]
  cases text with
  | nil => rfl
  | cons c rest =>
      rw [List.dropWhile_cons_of_neg]
      rw [noSlash c List.mem_cons_self]
      exact Bool.false_ne_true

theorem keepsAuthority_plain (plain : IsPlain text) : KeepsAuthority text := by
  intro c member
  rw [authorityStart_plain plain] at member
  exact endsAuthority_eq_false_iff.mp
    (plain.all_eq (by decide) (by decide) (by decide) c member)

theorem namesNoUser_plain (plain : IsPlain text) : NamesNoUser text := by
  rw [NamesNoUser, authorityStart_plain plain,
    splitUserInfo_of_not_mem (plain.not_mem (by decide))]
  exact Or.inl rfl

theorem parse_plain (isZone : IsZone zone) (plain : IsPlain text) :
    ∃ url, parse ("https://" ++ text ++ (zone ++ ['/'])) = .ok url ∧
      url.host = some (.domain (text ++ zone)) := by
  have all : ∀ c ∈ text ++ zone, (!endsAuthority true c) = true :=
    (plain.append isZone.plain).all_eq (by decide) (by decide) (by decide)
  have special : isSpecialScheme "https" = true := by decide
  rw [parse_https isZone, authorityStart_plain plain, readAfterSlashes, ← List.append_assoc]
  simp only [special, Text.takeWhile_first all (show (!endsAuthority true '/') = false by decide),
    readAuthority_plain isZone special plain]
  exact ⟨_, rfl, rfl⟩

/-- A URL with a text in front of a zone and a slash ends at its host exactly if the text does
not end the authority, and then its host lies in the zone. -/
theorem parse_zone (isZone : IsZone zone)
    (read : parse ("https://" ++ text ++ (zone ++ ['/'])) = .ok url) :
    (url.EndsAtHost ↔ KeepsAuthority text) ∧
      (KeepsAuthority text → url.LiesIn zone ∧
        (url.username = [] ∧ url.password = [] ↔ NamesNoUser text)) := by
  rw [parse_https isZone] at read
  have whole : KeepsAuthority text → _ := fun keeps =>
    readAfterSlashes_whole isZone
      (fun c member => endsAuthority_eq_false_iff.mpr (keeps c member)) read
  refine ⟨⟨fun endsAtHost => ?_, fun keeps => (whole keeps).2.1⟩, fun keeps => ?_⟩
  · intro c member
    refine endsAuthority_eq_false_iff.mp (Bool.eq_false_iff.mpr fun ends => ?_)
    exact readAfterSlashes_cut isZone ⟨c, member, ends⟩ read endsAtHost
  · obtain ⟨lies, -, userInfo⟩ := whole keeps
    refine ⟨lies, ?_⟩
    rw [NamesNoUser, ← UserInfo.ofText_eq_empty_iff, ← userInfo, UserInfo.mk.injEq]

end Zone

end FileShare.Url
