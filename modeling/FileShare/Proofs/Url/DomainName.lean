import FileShare.Proofs.Text.Separated
import FileShare.Proofs.Text.Utf8
import FileShare.Proofs.Unicode.Composition
import FileShare.Proofs.Url.Percent
import FileShare.Url.Address
import FileShare.Url.Parser

/-!
# Names in a zone

A name that ends in labels of small letters keeps them: they are not mapped, do not join
the characters in front of them, are not written in another form, and are no number.  So
whatever stands in front of such a zone, the host that is read lies in it.
-/

set_option autoImplicit false

namespace FileShare

/-- Nothing but small letters, digits and points. -/
def IsPlain (text : Text) : Prop :=
  ∀ c ∈ text, c = '.' ∨ (97 ≤ c.toNat ∧ c.toNat ≤ 122) ∨ (48 ≤ c.toNat ∧ c.toNat ≤ 57)

instance (text : Text) : Decidable (IsPlain text) := List.decidableBAll _ text

namespace IsPlain

variable {text : Text}

theorem append {rest : Text} (front : IsPlain text) (back : IsPlain rest) :
    IsPlain (text ++ rest) :=
  List.forall_mem_append.mpr ⟨front, back⟩

/-- What holds of the point, of the small letters and of the digits holds in a plain text. -/
theorem all_eq (plain : IsPlain text) {p : Char -> Bool} {value : Bool} (point : p '.' = value)
    (letters : ∀ n : Fin 26, p (Char.ofNat (n + 97)) = value)
    (digits : ∀ n : Fin 10, p (Char.ofNat (n + 48)) = value) : ∀ c ∈ text, p c = value := by
  intro c member
  rcases plain c member with rfl | letter | digit
  · exact point
  · have same : c = Char.ofNat (c.toNat - 97 + 97) := by
      rw [Nat.sub_add_cancel letter.1, Char.ofNat_toNat]
    rw [same]
    exact letters ⟨c.toNat - 97, by omega⟩
  · have same : c = Char.ofNat (c.toNat - 48 + 48) := by
      rw [Nat.sub_add_cancel digit.1, Char.ofNat_toNat]
    rw [same]
    exact digits ⟨c.toNat - 48, by omega⟩

theorem not_mem (plain : IsPlain text) {c : Char}
    (foreign : ¬(c = '.' ∨ (97 ≤ c.toNat ∧ c.toNat ≤ 122) ∨ (48 ≤ c.toNat ∧ c.toNat ≤ 57))) :
    c ∉ text :=
  fun member => foreign (plain c member)

theorem ascii (plain : IsPlain text) : ∀ c ∈ text, c.toNat < 128 := by
  intro c member
  rcases plain c member with rfl | letter | digit
  · decide
  · omega
  · omega

theorem asciiLowerChar (plain : IsPlain text) : ∀ c ∈ text, Text.asciiLowerChar c = c := by
  intro c member
  rw [Text.asciiLowerChar, if_neg]
  rcases plain c member with rfl | letter | digit
  · decide
  · omega
  · omega

theorem asciiLower (plain : IsPlain text) : Text.asciiLower text = text :=
  (List.map_congr_left plain.asciiLowerChar).trans (List.map_id text)

end IsPlain

/-- Labels of small letters, each behind a point. -/
structure IsZone (zone : Text) : Prop where
  chars : ∀ c ∈ zone, c = '.' ∨ (97 ≤ c.toNat ∧ c.toNat ≤ 122)
  opened : zone.head? = some '.'
  ended : zone.getLast? ≠ some '.'

namespace IsZone

variable {zone : Text}

theorem plain (isZone : IsZone zone) : IsPlain zone :=
  fun c member => (isZone.chars c member).imp_right Or.inl

theorem eq_cons (isZone : IsZone zone) : ∃ labels, zone = '.' :: labels := by
  cases zone with
  | nil => cases isZone.opened
  | cons c labels =>
      obtain rfl := Option.some.inj isZone.opened
      exact ⟨labels, rfl⟩

theorem getLast (isZone : IsZone zone) :
    ∃ before c, zone = before ++ [c] ∧ 97 ≤ c.toNat ∧ c.toNat ≤ 122 := by
  obtain ⟨labels, rfl⟩ := isZone.eq_cons
  have nonempty : '.' :: labels ≠ [] := List.cons_ne_nil _ _
  refine ⟨_, _, (List.dropLast_concat_getLast nonempty).symm, ?_⟩
  rcases isZone.chars _ (List.getLast_mem nonempty) with point | letter
  · exact absurd (by rw [List.getLast?_eq_some_getLast nonempty, point]) isZone.ended
  · exact letter

end IsZone

namespace DomainName

section ForAll

variable {α β : Type} {f : α -> Option β}

theorem forAll?_append {front rest : List α} {results : List β}
    (success : forAll? f (front ++ rest) = some results) :
    ∃ first second, forAll? f front = some first ∧ forAll? f rest = some second ∧
      results = first ++ second := by
  induction front generalizing results with
  | nil => exact ⟨[], results, rfl, success, rfl⟩
  | cons a more ih =>
      rw [List.cons_append, forAll?] at success
      split at success
      · rename_i b bs here later
        obtain ⟨first, second, some, last, rfl⟩ := ih later
        refine ⟨b :: first, second, ?_, last, ?_⟩
        · rw [forAll?, here, some]
        · rw [← Option.some.inj success, List.cons_append]
      · cases success

theorem length_of_forAll? {list : List α} {results : List β}
    (success : forAll? f list = some results) : results.length = list.length := by
  induction list generalizing results with
  | nil =>
      cases success
      rfl
  | cons a more ih =>
      rw [forAll?] at success
      split at success
      · rename_i b bs _ later
        rw [← Option.some.inj success, List.length_cons, List.length_cons, ih later]
      · cases success

theorem forAll?_fixed {g : α -> Option α} {list : List α} (fixed : ∀ a ∈ list, g a = some a) :
    forAll? g list = some list := by
  induction list with
  | nil => rfl
  | cons a more ih =>
      rw [forAll?, fixed a List.mem_cons_self,
        ih fun b member => fixed b (List.mem_cons_of_mem a member)]

end ForAll

/-! ## Labels of small letters -/

section Label

variable {label : Text}

theorem isAscii_of_small (small : ∀ c ∈ label, 97 ≤ c.toNat ∧ c.toNat ≤ 122) :
    isAscii label = true := by
  refine List.all_eq_true.mpr fun c member => decide_eq_true ?_
  have bounds := small c member
  omega

theorem not_marked (noHyphen : '-' ∉ label) : Text.dropPrefix? asciiMark label = none := by
  cases found : Text.dropPrefix? asciiMark label with
  | none => rfl
  | some form =>
      refine absurd ?_ noHyphen
      rw [Text.eq_append_of_dropPrefix? found]
      exact List.mem_append_left _ (by decide)

theorem readLabel?_of_small (small : ∀ c ∈ label, 97 ≤ c.toNat ∧ c.toNat ≤ 122) :
    readLabel? label = some label := by
  have noHyphen : '-' ∉ label := fun hyphen => absurd (small '-' hyphen) (by decide)
  rw [readLabel?, not_marked noHyphen]

theorem writeLabel?_of_small (small : ∀ c ∈ label, 97 ≤ c.toNat ∧ c.toNat ≤ 122) :
    writeLabel? label = some label :=
  if_pos (isAscii_of_small small)

end Label

/-! ## Names in a zone -/

section Zone

variable {zone name : Text}

theorem small_of_mem_labels (isZone : IsZone ('.' :: zone)) :
    ∀ label ∈ Text.pieces '.' zone, ∀ c ∈ label, 97 ≤ c.toNat ∧ c.toNat ≤ 122 := by
  intro label member c inside
  obtain ⟨place, noPoint⟩ := Text.mem_of_mem_pieces member inside
  exact (isZone.chars c (List.mem_cons_of_mem _ place)).resolve_left noPoint

theorem ofMapped?_append (isZone : IsZone zone) {form : Text}
    (written : ofMapped? (name ++ zone) = some form) : ∃ front, form = front ++ zone := by
  obtain ⟨labels, rfl⟩ := isZone.eq_cons
  have small := small_of_mem_labels isZone
  rw [ofMapped?, Text.pieces_append] at written
  split at written
  · cases written
  · rename_i all read
    obtain ⟨first, second, some, kept, rfl⟩ := forAll?_append read
    rw [forAll?_fixed fun label member => readLabel?_of_small (small label member)] at kept
    obtain rfl := Option.some.inj kept
    dsimp only at written
    split at written
    · obtain ⟨forms, write, rfl⟩ := Option.map_eq_some_iff.mp written
      obtain ⟨front, back, before, behind, rfl⟩ := forAll?_append write
      rw [forAll?_fixed fun label member => writeLabel?_of_small (small label member)] at behind
      obtain rfl := Option.some.inj behind
      have nonempty : front ≠ [] := by
        intro empty
        have lengths := (length_of_forAll? before).trans (length_of_forAll? some)
        rw [empty] at lengths
        exact Text.pieces_ne_nil name (List.length_eq_zero_iff.mp lengths.symm)
      refine ⟨List.intercalate ['.'] front, ?_⟩
      rw [Text.intercalate_append nonempty (Text.pieces_ne_nil labels), Text.intercalate_pieces,
        List.append_assoc]
      rfl
    · cases written

theorem mapHost?_append {front rest mapped : Text}
    (success : Unicode.mapHost? (front ++ rest) = some mapped) :
    ∃ first second, Unicode.mapHost? rest = some second ∧ mapped = first ++ second := by
  induction front generalizing mapped with
  | nil => exact ⟨[], mapped, success, rfl⟩
  | cons c more ih =>
      rw [List.cons_append, Unicode.mapHost?] at success
      split at success
      · rename_i image images _ later
        obtain ⟨first, second, kept, rfl⟩ := ih later
        refine ⟨image ++ first, second, kept, ?_⟩
        rw [← Option.some.inj success, List.append_assoc]
      · cases success

theorem mapHost?_zone (isZone : IsZone zone) : Unicode.mapHost? zone = some zone := by
  have kept : ∀ text : Text, (∀ c ∈ text, c.toNat < 128 ∧ Text.asciiLowerChar c = c) →
      Unicode.mapHost? text = some text := by
    intro text
    induction text with
    | nil => exact fun _ => rfl
    | cons c rest ih =>
        intro plain
        obtain ⟨ascii, small⟩ := plain c List.mem_cons_self
        have here : Unicode.mapHostChar? c = some [c] := by
          rw [Unicode.mapHostChar?, if_pos ascii, small]
        rw [Unicode.mapHost?, here, ih fun d member => plain d (List.mem_cons_of_mem c member)]
        rfl
  exact kept zone fun c member =>
    ⟨isZone.plain.ascii c member, isZone.plain.asciiLowerChar c member⟩

theorem toAscii?_append (isZone : IsZone zone) {form : Text}
    (written : toAscii? (name ++ zone) = some form) : ∃ front, form = front ++ zone := by
  have small : Text.asciiLower (name ++ zone) = Text.asciiLower name ++ zone :=
    List.map_append.trans (congrArg (Text.asciiLower name ++ ·) isZone.plain.asciiLower)
  simp only [toAscii?] at written
  split at written
  · cases written
  · rename_i text chosen
    split at written
    · cases written
    · obtain rfl := Option.some.inj written
      split at chosen
      · rw [small] at chosen
        split at chosen
        · exact ofMapped?_append isZone chosen
        · exact ⟨_, (Option.some.inj chosen).symm⟩
      · split at chosen
        · cases chosen
        · rename_i mapped images
          obtain ⟨first, second, same, rfl⟩ := mapHost?_append images
          rw [mapHost?_zone isZone] at same
          obtain rfl := Option.some.inj same
          rw [Unicode.compose_append_ascii first isZone.plain.ascii] at chosen
          exact ofMapped?_append isZone chosen

end Zone

theorem toAscii?_plain {name : Text} (plain : IsPlain name) : toAscii? name = some name := by
  have ascii : isAscii name = true :=
    List.all_eq_true.mpr (plain.all_eq (by decide) (by decide) (by decide))
  have unmarked : hasMark name = false := by
    refine List.any_eq_false.mpr fun label member => ?_
    have noHyphen : '-' ∉ label := fun hyphen =>
      plain.not_mem (by decide) (Text.mem_of_mem_pieces member hyphen).1
    rw [not_marked noHyphen]
    exact Bool.false_ne_true
  have allowed : name.any isForbidden = false :=
    List.any_eq_false.mpr fun c member => Bool.eq_false_iff.mp
      (plain.all_eq (by decide) (by decide) (by decide) c member)
  simp only [toAscii?, ascii, if_true, plain.asciiLower, unmarked, Bool.false_eq_true, if_false,
    allowed]

theorem not_isForbidden_of_toAscii? {name form : Text} (written : toAscii? name = some form) :
    ∀ c ∈ form, isForbidden c = false := by
  simp only [toAscii?] at written
  split at written
  · cases written
  · rename_i text chosen
    split at written
    · cases written
    · rename_i clean
      rw [Bool.not_eq_true] at clean
      rw [← Option.some.inj written]
      intro c member
      exact Bool.eq_false_iff.mpr (List.any_eq_false.mp clean c member)

end DomainName

/-! ## Hosts in a zone -/

namespace Address

theorem valueIn?_of_letter {c : Char} (letter : 97 ≤ c.toNat ∧ c.toNat ≤ 122) (rest : Text) :
    valueIn? 10 (c :: rest) = none := by
  have noDigit : ∀ d, Text.hexDigit? c = some d → ¬ d < 10 := by
    intro d read
    rw [Text.hexDigit?] at read
    simp only [show ¬ (48 ≤ c.toNat ∧ c.toNat ≤ 57) by omega,
      show ¬ (65 ≤ c.toNat ∧ c.toNat ≤ 70) by omega, if_false] at read
    split at read
    · rw [← Option.some.inj read]
      omega
    · cases read
  rw [valueIn?, List.foldl_cons]
  cases read : Text.hexDigit? c with
  | none =>
      induction rest with
      | nil => rfl
      | cons d more ih => exact ih
  | some d =>
      simp only [if_neg (noDigit d read)]
      induction rest with
      | nil => rfl
      | cons d more ih => exact ih

theorem part?_of_small {label : Text} (small : ∀ c ∈ label, 97 ≤ c.toNat ∧ c.toNat ≤ 122) :
    part? label = none := by
  cases label with
  | nil => rfl
  | cons c rest =>
      have letter := small c List.mem_cons_self
      have noZero : c ≠ '0' := by
        rintro rfl
        exact absurd letter (by decide)
      rw [part?]
      · exact valueIn?_of_letter letter rest
      · exact List.cons_ne_nil _ _
      · exact fun _ same => noZero (List.cons.inj same).1
      · exact fun _ same => noZero (List.cons.inj same).1
      · exact fun _ _ same => noZero (List.cons.inj same).1

theorem endsInNumber_zone {zone : Text} (isZone : IsZone zone) (name : Text) :
    endsInNumber (name ++ zone) = false := by
  obtain ⟨labels, rfl⟩ := isZone.eq_cons
  have small := DomainName.small_of_mem_labels isZone
  obtain ⟨front, last, split⟩ : ∃ front last, Text.pieces '.' labels = front ++ [last] := by
    obtain ⟨front, last, split, -⟩ :=
      Text.pieces_append_of_not_mem (show '.' ∉ [] from List.not_mem_nil) labels
    exact ⟨front, last, split⟩
  have member : last ∈ Text.pieces '.' labels := by
    rw [split]
    exact List.mem_append_right _ List.mem_cons_self
  have filled : last ≠ [] := by
    rintro rfl
    have open_ : labels = [] ∨ labels.getLast? = some '.' :=
      Text.getLast?_pieces (by rw [split, List.getLast?_concat])
    refine isZone.ended ?_
    rcases open_ with rfl | point
    · rfl
    · rw [List.getLast?_cons, point]
      rfl
  have whole : (Text.pieces '.' (name ++ '.' :: labels)).getLast? = some last := by
    rw [Text.pieces_append, split, ← List.append_assoc, List.getLast?_concat]
  have kept : parts (name ++ '.' :: labels) = Text.pieces '.' (name ++ '.' :: labels) := by
    simp only [parts, whole, Option.some.injEq, if_neg filled]
  have noDigits : last.all Text.isAsciiDigit = false := by
    cases last with
    | nil => exact absurd rfl filled
    | cons c rest =>
        have letter := small _ member c List.mem_cons_self
        have here : Text.isAsciiDigit c = false := by
          simp only [Text.isAsciiDigit, Bool.and_eq_false_iff, decide_eq_false_iff_not]
          omega
        rw [List.all_cons, here, Bool.false_and]
  rw [endsInNumber, kept, whole]
  simp only [noDigits, part?_of_small (small last member), Bool.and_false, Option.isSome_none,
    Bool.or_false]

end Address

namespace Url

theorem decodeText_zone {zone : Text} (isZone : IsZone zone) (text : Text) :
    Percent.decodeText (text ++ zone) = Percent.decodeText text ++ Text.asciiBytes zone := by
  have plain : ∀ byte ∈ Text.asciiBytes zone, byte ≠ 37 :=
    Percent.ne_mark_of_mem_asciiBytes isZone.plain.ascii (isZone.plain.not_mem (by decide))
  have apart : ∀ byte ∈ (Text.asciiBytes zone).head?, Percent.hexByte? byte = none := by
    obtain ⟨labels, rfl⟩ := isZone.eq_cons
    intro byte first
    rw [← Option.some.inj first]
    decide
  rw [Percent.decodeText, Text.Utf8.encode_append, Text.Utf8.encode_ascii isZone.plain.ascii,
    Percent.decode_append_plain plain apart, Percent.decodeText]

/-- A text in front of a zone is read as a name in the zone, or not at all. -/
theorem specialHost_zone {zone : Text} (isZone : IsZone zone) {text : Text} {host : Host}
    (read : specialHost (text ++ zone) = .ok host) :
    ∃ name, host = .domain (name ++ zone) ∧ ∀ c ∈ name, DomainName.isForbidden c = false := by
  have unbracketed : bracketedHost (text ++ zone) = .error .ipv6 := by
    obtain ⟨before, c, rfl, letter⟩ := isZone.getLast
    have noBracket : c ≠ ']' := by
      rintro rfl
      exact absurd letter (by decide)
    rw [bracketedHost, ← List.append_assoc, List.reverse_concat]
    split
    · rename_i same
      exact absurd (List.cons.inj same).1 noBracket
    · rfl
  by_cases bracket : ∃ inside, text ++ zone = '[' :: inside
  · obtain ⟨inside, same⟩ := bracket
    rw [same] at read unbracketed
    rw [specialHost, unbracketed] at read
    cases read
  · rw [specialHost, decodeText_zone isZone, Text.Utf8.decode_append_ascii isZone.plain.ascii] at read
    · split at read
      · cases read
      · cases read
      · rename_i form _ written
        obtain ⟨name, rfl⟩ := DomainName.toAscii?_append isZone written
        rw [Address.endsInNumber_zone isZone] at read
        refine ⟨name, (Except.ok.inj read).symm, fun c member => ?_⟩
        exact DomainName.not_isForbidden_of_toAscii? written c (List.mem_append_left zone member)
    · exact fun inside same => bracket ⟨inside, same⟩

theorem specialHost_plain {zone : Text} (isZone : IsZone zone) {text : Text}
    (plain : IsPlain text) : specialHost (text ++ zone) = .ok (.domain (text ++ zone)) := by
  have whole := plain.append isZone.plain
  have read : Text.Utf8.decode (Percent.decodeText (text ++ zone)) = text ++ zone := by
    rw [Percent.decodeText_plain whole.ascii (whole.not_mem (by decide)), Text.Utf8.decode_encode]
  have unbracketed : ∀ inside, text ++ zone = '[' :: inside → False := by
    intro inside same
    have bracket : '[' ∈ text ++ zone := by
      rw [same]
      exact List.mem_cons_self
    exact whole.not_mem (by decide) bracket
  have nonempty : text ++ zone ≠ [] := by
    obtain ⟨labels, rfl⟩ := isZone.eq_cons
    exact List.append_ne_nil_of_right_ne_nil text (List.cons_ne_nil _ _)
  rw [specialHost, read, DomainName.toAscii?_plain whole]
  · split
    · rename_i none
      cases none
    · rename_i empty
      exact absurd (Option.some.inj empty) nonempty
    · rename_i name _ same
      obtain rfl := Option.some.inj same
      rw [Address.endsInNumber_zone isZone]
      rfl
  · exact unbracketed

end Url

end FileShare
