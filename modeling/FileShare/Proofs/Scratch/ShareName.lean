import FileShare.Proofs.Scratch.Scope
import FileShare.Proofs.Url.Root

/-!
# Legal share names

Whatever the thread is called, its caller is a short text of small letters and figures, which
is left as it is when it is cleaned again.  So the name of a share is a legal one: the prefix,
the caller, thirteen figures of the time and the number.  Nothing in it is escaped in a URL, and
the handle of the share ends in it.
-/

set_option autoImplicit false

namespace FileShare

namespace Text

/-- A numeral begins with a zero only if it is the one of zero. -/
theorem head_decimal {n : Nat} (positive : 0 < n) : (decimal n).head? ≠ some '0' := by
  induction n using Nat.strongRecOn with
  | _ n ih =>
      by_cases small : n < 10
      · have figures : ∀ n : Fin 10, 0 < n.val -> n.val.digitChar ≠ '0' := by decide
        rw [decimal, Nat.toDigits_of_lt_base small, List.head?_cons]
        exact fun same => figures ⟨n, small⟩ positive (Option.some.inj same)
      · have front := ih (n / 10) (by omega) (by omega)
        rw [decimal] at front ⊢
        rw [Nat.toDigits_of_base_le (by omega) (by omega), List.head?_append_of_ne_nil _
          Nat.toDigits_ne_nil]
        exact front

/-- The text is the numeral of a number, without leading zeros. -/
structure IsNumeral (text : Text) (n : Nat) : Prop where
  nonempty : text ≠ []
  figures : ∀ c ∈ text, isAsciiDigit c = true
  value : digitsValue text = n
  noZero : text.head? = some '0' -> text = ['0']

theorem isNumeral_decimal (n : Nat) : IsNumeral (decimal n) n where
  nonempty := Nat.toDigits_ne_nil
  figures _ member := mem_decimal member
  value := digitsValue_decimal n
  noZero := by
    intro zero
    rcases Nat.eq_zero_or_pos n with rfl | positive
    · rfl
    · exact absurd zero (head_decimal positive)

end Text

namespace Naming

/-! ## Small letters and figures -/

def isNameChar (c : Char) : Bool := Text.isAsciiDigit c || (97 ≤ c.toNat && c.toNat ≤ 122)

structure IsLegal (name : Text) : Prop where
  characters : ∀ c ∈ name, isNameChar c = true
  long : 3 ≤ name.length
  short : name.length ≤ 63

/-- What can stand for the caller in a name. -/
structure IsCaller (caller : Text) : Prop where
  characters : ∀ c ∈ caller, isNameChar c = true
  nonempty : caller ≠ []
  short : caller.length ≤ longestCaller

theorem isNameChar_iff {c : Char} :
    isNameChar c = true ↔
      (48 ≤ c.toNat ∧ c.toNat ≤ 57) ∨ (97 ≤ c.toNat ∧ c.toNat ≤ 122) := by
  simp only [isNameChar, Text.isAsciiDigit, Bool.or_eq_true, Bool.and_eq_true, decide_eq_true_eq]

theorem isNameChar_of_digit {c : Char} (digit : Text.isAsciiDigit c = true) :
    isNameChar c = true := by
  rw [isNameChar, digit, Bool.true_or]

theorem mem_sanitize {text : Text} {c : Char} (member : c ∈ sanitize text) :
    isNameChar c = true := by
  obtain ⟨original, place, rfl⟩ := List.mem_map.mp (List.mem_of_mem_take member)
  have kept := (List.mem_filter.mp place).2
  simp only [Text.isAsciiLetter, Text.isAsciiDigit, Bool.or_eq_true, Bool.and_eq_true,
    decide_eq_true_eq] at kept
  rw [isNameChar_iff, Text.toNat_asciiLowerChar]
  split <;> omega

theorem length_sanitize_le (text : Text) : (sanitize text).length ≤ longestCaller :=
  List.length_take_le _ _

/-- What consists of small letters and figures, and is short, is clean. -/
theorem sanitize_eq_self {text : Text} (characters : ∀ c ∈ text, isNameChar c = true)
    (short : text.length ≤ longestCaller) : sanitize text = text := by
  have kept : ∀ c ∈ text, (Text.isAsciiLetter c || Text.isAsciiDigit c) = true := by
    intro c member
    have bounds := isNameChar_iff.mp (characters c member)
    simp only [Text.isAsciiLetter, Text.isAsciiDigit, Bool.or_eq_true, Bool.and_eq_true,
      decide_eq_true_eq]
    omega
  have small : ∀ c ∈ text, Text.asciiLowerChar c = c := by
    intro c member
    have bounds := isNameChar_iff.mp (characters c member)
    rw [Text.asciiLowerChar, if_neg (by omega)]
  rw [sanitize, List.filter_eq_self.mpr kept, List.map_congr_left small, List.map_id',
    List.take_of_length_le short]

theorem isCaller_callerOf (thread : Option Text) : IsCaller (callerOf thread) := by
  have default : IsCaller defaultCaller :=
    ⟨List.all_eq_true.mp (by decide), by decide, by decide⟩
  simp only [callerOf]
  split
  · exact default
  · split
    · exact default
    · split
      · exact default
      · rename_i nonempty
        exact ⟨fun _ => mem_sanitize, fun none => nonempty (List.isEmpty_iff.mpr none),
          length_sanitize_le _⟩

theorem IsCaller.sanitize_eq {caller : Text} (clean : IsCaller caller) :
    sanitize caller = caller :=
  sanitize_eq_self clean.characters clean.short

/-- The parts of a share name make a legal one, whatever the number. -/
theorem isLegal_of_parts {caller figures number : Text} {word : UInt64}
    (clean : IsCaller caller) (thirteen : figures.length = 13)
    (time : ∀ c ∈ figures, Text.isAsciiDigit c = true)
    (numeral : number = Text.decimal word.toNat) :
    IsLegal (sharePrefix ++ caller ++ figures ++ number) := by
  have width : number.length ≤ 20 := by
    rw [numeral]
    exact Text.length_decimal_le (by decide)
      (Nat.lt_of_lt_of_le word.toNat_lt (by decide : 2 ^ 64 ≤ Nat.pow 10 20))
  have room := clean.short
  have start : sharePrefix.length = 2 := rfl
  refine ⟨?_, ?_, ?_⟩
  · simp only [List.forall_mem_append]
    refine ⟨⟨⟨List.all_eq_true.mp (by decide), clean.characters⟩,
      fun c member => isNameChar_of_digit (time c member)⟩,
      fun c member => isNameChar_of_digit ?_⟩
    rw [numeral] at member
    exact Text.mem_decimal member
  · simp only [List.length_append]
    omega
  · rw [longestCaller] at room
    simp only [List.length_append]
    omega

/-! ## Legal names in URLs -/

/-- Small letters and figures are neither left out of a path segment nor escaped in it. -/
theorem kept_of_isNameChar {c : Char} (plain : isNameChar c = true) :
    c.toNat < 0x80 ∧ Url.isSkipped c = false ∧
      ∀ backslash, Percent.inSegmentSet backslash c = false := by
  have table : ∀ n : Fin 0x80, isNameChar (Char.ofNat n) = true ->
      Url.isSkipped (Char.ofNat n) = false ∧
        ∀ backslash, Percent.inSegmentSet backslash (Char.ofNat n) = false := by
    decide +kernel
  have ascii : c.toNat < 0x80 := by
    have bounds := isNameChar_iff.mp plain
    omega
  have kept := table ⟨c.toNat, ascii⟩
  rw [Char.ofNat_toNat] at kept
  exact ⟨ascii, kept plain⟩

theorem IsLegal.addressable {name : Text} (legal : IsLegal name) : Url.Addressable name := by
  have long := legal.long
  refine ⟨?_, ?_, ?_, fun c member => (kept_of_isNameChar (legal.characters c member)).2.1⟩
  · rintro rfl
    exact absurd long (by decide)
  · rintro rfl
    exact absurd long (by decide)
  · rintro rfl
    exact absurd long (by decide)

theorem IsLegal.segmentUnder_eq {name : Text} (legal : IsLegal name) (scheme : Text) :
    Url.segmentUnder scheme name = name :=
  Percent.encode_plain fun c member =>
    have kept := kept_of_isNameChar (legal.characters c member)
    ⟨kept.1, kept.2.2 _⟩

/-- The share of a legal name has a path that ends in the name. -/
theorem IsLegal.share {name endpoint : Text} {service : Service} (legal : IsLegal name)
    (parsed : Url.parse endpoint = .ok service.url) (web : Url.IsWebScheme service.url.scheme) :
    (∃ front, (service.share name).url.pathText = front ++ '/' :: name) ∧
      (service.share name).name = name := by
  have notFile : service.url.scheme ≠ "file" := fun file => by
    have other := web.ne_file
    rw [file] at other
    cases other
  obtain ⟨segments, path⟩ := (Url.isShareRoot_of_special parsed web.isSpecial notFile).segments
  have placed : ¬ Url.OnFileRoot service.url.scheme segments := fun root => notFile root.1
  refine ⟨⟨(Url.openSegments (Url.withoutEmptyEnd segments)).flatMap ('/' :: ·), ?_⟩,
    Url.lastName_child path legal.addressable placed⟩
  rw [Service.share, Url.child_added path legal.addressable placed, legal.segmentUnder_eq]
  simp only [Url.pathText, UrlPath.toText, List.flatMap_append, List.flatMap_singleton]

/-! ## Share names -/

/-- The parts of the name of a share: prefix, caller, thirteen figures and the number. -/
structure IsShareName (name caller : Text) (number : Nat) : Prop where
  parts : ∃ figures numeral, name = "rs" ++ caller ++ figures ++ numeral ∧
    figures.length = 13 ∧ (∀ c ∈ figures, Text.isAsciiDigit c = true) ∧ numeral.IsNumeral number
  legal : IsLegal name

theorem isShareName_compose {now : Instant} (nanoseconds : now.nanoseconds < 1000000000)
    (thread : Option Text) (number : UInt64) :
    IsShareName (compose sharePrefix (callerOf thread) now number) (callerOf thread)
      number.toNat := by
  have clean := isCaller_callerOf thread
  have time : ∀ c ∈ stamp now, Text.isAsciiDigit c = true := fun _ => mem_stamp
  rw [compose, clean.sanitize_eq]
  exact ⟨⟨stamp now, _, rfl, length_stamp nanoseconds, time, Text.isNumeral_decimal _⟩,
    isLegal_of_parts clean (length_stamp nanoseconds) time rfl⟩

/-- At a date a legal name with the caller is made, and the share of this name has it in its
path as it is; a clock that shows no date stops the call before a number is used. -/
theorem share_name_legal (session : Session)
    (nanoseconds : session.now.nanoseconds < 1000000000) :
    IsCaller (callerOf session.thread) ∧
      sanitize (callerOf session.thread) = callerOf session.thread ∧
      (session.now.IsDate -> ∃ name,
        generate sharePrefix session =
          (.ok name, { session with sequence := session.sequence + 1 }) ∧
        IsShareName name (callerOf session.thread) session.sequence.toNat ∧
        ∀ (service : Service) (endpoint : Text), Url.parse endpoint = .ok service.url ->
          Url.IsWebScheme service.url.scheme -> ∃ share front,
            Scratch.nameShare service sharePrefix session =
              (.ok ⟨share, name⟩, { session with sequence := session.sequence + 1 }) ∧
            share.url.pathText = front ++ '/' :: name ∧ share.name = name) ∧
      (¬ session.now.IsDate -> ∃ fault : ClockFault, session.now.dated = .error fault ∧
        generate sharePrefix session = (.error (.stopped fault.message), session)) := by
  have clean := isCaller_callerOf session.thread
  refine ⟨clean, clean.sanitize_eq, ?_, ?_⟩
  · intro date
    have shape := isShareName_compose nanoseconds session.thread session.sequence
    have made := generate_of_isDate sharePrefix date
    refine ⟨_, made, shape, fun service endpoint parsed web => ?_⟩
    obtain ⟨⟨front, path⟩, named⟩ := shape.legal.share parsed web
    refine ⟨_, front, ?_, path, named⟩
    rw [Scratch.nameShare, Run.bind_apply, made]
    rfl
  · exact generate_of_not_isDate sharePrefix

/-- A session with a long thread name, in which all numbers but the last are used. -/
def lastSession : Session :=
  { firstSession with
    thread := some "names::tests::test_Caller_Identifier_from_test_thread"
    sequence := 18446744073709551615 }

theorem share_name_legal_longest :
    ∃ name, IsShareName name "calleridentifierfromtest" 18446744073709551615 ∧
      name.length = 59 := by
  obtain ⟨-, -, dated, -⟩ := share_name_legal lastSession (by decide)
  obtain ⟨name, made, shape, -⟩ := dated (by decide)
  have caller : callerOf lastSession.thread = "calleridentifierfromtest" := by decide +kernel
  rw [generate_of_isDate _ (by decide), caller] at made
  have length : (compose sharePrefix "calleridentifierfromtest" lastSession.now
      lastSession.sequence).length = 59 := by decide +kernel
  rw [caller] at shape
  cases made
  exact ⟨_, shape, length⟩

/-- A clock that stands before 1970 gives no name. -/
theorem share_name_not_before_epoch :
    ¬ ∀ session : Session, session.now.nanoseconds < 1000000000 ->
      ∃ name after, generate sharePrefix session = (.ok name, after) := by
  intro named
  obtain ⟨name, after, made⟩ := named { firstSession with now := ⟨-1, 0⟩ } (by decide)
  have stopped : generate sharePrefix { firstSession with now := ⟨-1, 0⟩ } =
      (.error (.stopped "system time before Unix epoch: SystemTimeError(1s)"),
        { firstSession with now := ⟨-1, 0⟩ }) := by rfl
  rw [stopped] at made
  cases made

end Naming

end FileShare
