import FileShare.Unicode.Composition

/-!
# ASCII characters in composed texts

The tables say nothing about ASCII characters but that some composites begin with one.
So an ASCII character is no mark, is not taken apart, and does not join what stands in
front of it: an ASCII text at the end of a text is composed as it is.
-/

set_option autoImplicit false

namespace FileShare.Unicode

/-! ## Reading the tables -/

theorem flatMap_numbers_cons (text : Text) (rest : List String) :
    ((String.ofList text :: rest).flatMap fun line => numbers line.toList) =
      numbers text ++ rest.flatMap fun line => numbers line.toList := by
  rw [List.flatMap_cons, String.toList_ofList]

theorem head?_lines {text : Text} {n : Nat} (first : (numbers text).head? = some n)
    (rest : List String) :
    ((String.ofList text :: rest).flatMap fun line => numbers line.toList).head? = some n := by
  rw [flatMap_numbers_cons, List.head?_append, first]
  rfl

theorem whole_of_mem_partsFrom {place : Nat} {list : List Nat} {parts : Parts}
    (member : parts ∈ partsFrom place list) :
    ∀ gap ∈ list.head?, place + gap ≤ parts.whole := by
  induction place, list using partsFrom.induct with
  | case1 place gap first second rest ih =>
      intro found same
      obtain rfl := Option.some.inj same
      rcases List.mem_cons.mp member with rfl | later
      · exact Nat.le_refl _
      · cases rest with
        | nil => exact absurd later List.not_mem_nil
        | cons next more =>
            have bound := ih later next rfl
            omega
  | case2 place list short =>
      rw [partsFrom] at member
      · exact absurd member List.not_mem_nil
      · exact short

theorem least_of_mem_classesFrom {place : Nat} {list : List Nat} {range : ClassRange}
    (member : range ∈ classesFrom place list) :
    ∀ gap ∈ list.head?, place + gap ≤ range.least := by
  induction place, list using classesFrom.induct with
  | case1 place gap extra combiningClass rest ih =>
      intro found same
      obtain rfl := Option.some.inj same
      rcases List.mem_cons.mp member with rfl | later
      · exact Nat.le_refl _
      · cases rest with
        | nil => exact absurd later List.not_mem_nil
        | cons next more =>
            have bound := ih later next rfl
            omega
  | case2 place list short =>
      rw [classesFrom] at member
      · exact absurd member List.not_mem_nil
      · exact short

/-- Whether each third number lies beyond ASCII, where `place` numbers of the first three
are read already; the result is the same for the numbers that follow. -/
def thirdsBeyond? : Nat -> List Nat -> Option Nat
  | place, [] => some place
  | 0, _ :: rest => thirdsBeyond? 1 rest
  | 1, _ :: rest => thirdsBeyond? 2 rest
  | _ + 2, n :: rest => if 128 ≤ n then thirdsBeyond? 0 rest else none

theorem thirdsBeyond?_append (place : Nat) (front rest : List Nat) :
    thirdsBeyond? place (front ++ rest) =
      (thirdsBeyond? place front).bind fun place => thirdsBeyond? place rest := by
  induction place, front using thirdsBeyond?.induct with
  | case1 place => rw [List.nil_append, thirdsBeyond?, Option.bind_some]
  | case2 n more ih => rw [List.cons_append, thirdsBeyond?, ih, thirdsBeyond?]
  | case3 n more ih => rw [List.cons_append, thirdsBeyond?, ih, thirdsBeyond?]
  | case4 place n more beyond ih =>
      rw [List.cons_append, thirdsBeyond?, if_pos beyond, ih, thirdsBeyond?, if_pos beyond]
  | case5 place n more within =>
      rw [List.cons_append, thirdsBeyond?, if_neg within, thirdsBeyond?, if_neg within,
        Option.bind_none]

theorem thirdsBeyond?_lines {text : Text} {rest : List String} {place last : Nat} (next : Nat)
    (here : thirdsBeyond? place (numbers text) = some next)
    (more : thirdsBeyond? next (rest.flatMap fun line => numbers line.toList) = some last) :
    thirdsBeyond? place ((String.ofList text :: rest).flatMap fun line => numbers line.toList) =
      some last := by
  rw [flatMap_numbers_cons, thirdsBeyond?_append, here, Option.bind_some, more]

theorem thirdsBeyond?_end (place : Nat) :
    thirdsBeyond? place (([] : List String).flatMap fun line => numbers line.toList) =
      some place := by
  rw [List.flatMap_nil, thirdsBeyond?]

theorem second_of_mem_partsFrom {place last : Nat} {list : List Nat} {parts : Parts}
    (beyond : thirdsBeyond? 0 list = some last) (member : parts ∈ partsFrom place list) :
    128 ≤ parts.second := by
  induction place, list using partsFrom.induct with
  | case1 place gap first second rest ih =>
      simp only [thirdsBeyond?] at beyond
      split at beyond
      · rename_i large
        rcases List.mem_cons.mp member with rfl | later
        · exact large
        · exact ih beyond later
      · cases beyond
  | case2 place list short =>
      rw [partsFrom] at member
      · exact absurd member List.not_mem_nil
      · exact short

theorem compositeLines_thirds :
    thirdsBeyond? 0 (compositeLines.flatMap fun line => numbers line.toList) = some 0 := by
  rw [compositeLines]
  -- A line ends within a group of three or behind one.
  repeat
    first
      | refine thirdsBeyond?_lines 0 (by decide +kernel) ?_
      | refine thirdsBeyond?_lines 1 (by decide +kernel) ?_
      | refine thirdsBeyond?_lines 2 (by decide +kernel) ?_
      | exact thirdsBeyond?_end 0

/-! ## ASCII characters -/

section Ascii

variable {c : Char}

theorem combiningClass_ascii (ascii : c.toNat < 128) : combiningClass c = 0 := by
  have first : (classLines.flatMap fun line => numbers line.toList).head? = some 768 := by
    rw [classLines]
    exact head?_lines (by decide +kernel) _
  have none : (classRanges.find? fun range =>
      range.least ≤ c.toNat && c.toNat ≤ range.greatest) = Option.none := by
    refine List.find?_eq_none.mpr fun range member => ?_
    have bound := least_of_mem_classesFrom member 768 first
    have outside : ¬ range.least ≤ c.toNat := by omega
    simp [outside]
  rw [combiningClass, none]
  rfl

theorem decomposeChar_ascii (ascii : c.toNat < 128) : decomposeChar c = [c] := by
  have composite : (compositeLines.flatMap fun line => numbers line.toList).head? = some 192 := by
    rw [compositeLines]
    exact head?_lines (by decide +kernel) _
  have singleton : (singletonLines.flatMap fun line => numbers line.toList).head? = some 832 := by
    rw [singletonLines]
    exact head?_lines (by decide +kernel) _
  have noComposite : (composites.find? fun parts => parts.whole == c.toNat) = none := by
    refine List.find?_eq_none.mpr fun parts member => ?_
    have bound := whole_of_mem_partsFrom member 192 composite
    simp only [beq_iff_eq]
    omega
  have noSingleton : (singletons.find? fun parts => parts.whole == c.toNat) = none := by
    refine List.find?_eq_none.mpr fun parts member => ?_
    have bound := whole_of_mem_partsFrom member 832 singleton
    simp only [beq_iff_eq]
    omega
  have noSyllable : ¬ (0xAC00 ≤ c.toNat ∧ c.toNat ≤ 0xD7A3) := by omega
  have whole : decomposeFor 3 c.toNat = [c.toNat] := by
    unfold decomposeFor
    rw [if_neg noSyllable, noComposite, noSingleton, Option.or_none]
  rw [decomposeChar, whole, List.map_cons, List.map_nil, Char.ofNat_toNat]

theorem composePair?_ascii (a : Char) (ascii : c.toNat < 128) : composePair? a c = none := by
  have none : (composites.find? fun parts =>
      parts.first == a.toNat && parts.second == c.toNat) = Option.none := by
    refine List.find?_eq_none.mpr fun parts member => ?_
    have bound := second_of_mem_partsFrom compositeLines_thirds member
    have other : parts.second ≠ c.toNat := by omega
    simp [other]
  simp only [composePair?]
  rw [if_neg (by omega), if_neg (by omega), none, Option.map_none]

end Ascii

/-! ## Composing -/

theorem decompose_append_ascii (text : Text) {ascii : Text} (small : ∀ c ∈ ascii, c.toNat < 128) :
    decompose (text ++ ascii) = decompose text ++ ascii := by
  have kept : ∀ reversed : Text,
      (ascii.flatMap decomposeChar).foldl insertOrdered reversed = ascii.reverse ++ reversed := by
    induction ascii with
    | nil => exact fun _ => rfl
    | cons c rest ih =>
        intro reversed
        have here := small c List.mem_cons_self
        rw [List.flatMap_cons, decomposeChar_ascii here, List.singleton_append, List.foldl_cons,
          insertOrdered, if_pos (combiningClass_ascii here),
          ih fun d member => small d (List.mem_cons_of_mem c member), List.reverse_cons,
          List.append_assoc, List.singleton_append]
  rw [decompose, decompose, List.flatMap_append, List.foldl_append, kept, List.reverse_append,
    List.reverse_reverse]

/-- Marks stand behind a starter only. -/
def Composing.IsStarted (state : Composing) : Prop := state.starter = none -> state.marks = []

theorem Composing.IsStarted.add {state : Composing} (started : state.IsStarted) (c : Char) :
    (state.add c).IsStarted := by
  obtain ⟨finished, starter, marks⟩ := state
  cases starter with
  | none =>
      rw [Composing.add]
      by_cases starts : combiningClass c = 0
      · rw [if_pos starts]
        intro other
        cases other
      · rw [if_neg starts]
        exact started
  | some starter =>
      -- What was there has a starter, and so has what comes of it.
      have kept : (Composing.add ⟨finished, some starter, marks⟩ c).starter ≠ none := by
        simp only [Composing.add]
        split
        · exact Option.some_ne_none _
        · split
          · exact Option.some_ne_none _
          · exact Option.some_ne_none _
      exact fun other => absurd other kept

theorem Composing.reversed_add_ascii {state : Composing} (started : state.IsStarted) {c : Char}
    (ascii : c.toNat < 128) : (state.add c).reversed = c :: state.reversed := by
  rw [Composing.add]
  split
  · rename_i none
    rw [if_pos (combiningClass_ascii ascii), reversed, reversed, started none, none]
    rfl
  · rename_i starter _
    have alone : ∀ blocked : Bool,
        (if blocked = true then none else composePair? starter c) = none := by
      intro blocked
      rw [composePair?_ascii starter ascii, ite_self]
    simp only [alone, if_pos (combiningClass_ascii ascii)]
    rfl

theorem compose_append_ascii (text : Text) {ascii : Text} (small : ∀ c ∈ ascii, c.toNat < 128) :
    compose (text ++ ascii) = compose text ++ ascii := by
  have kept : ∀ state : Composing, state.IsStarted ->
      (ascii.foldl Composing.add state).reversed = ascii.reverse ++ state.reversed := by
    induction ascii with
    | nil => exact fun _ _ => rfl
    | cons c rest ih =>
        intro state started
        rw [List.foldl_cons, ih (fun d member => small d (List.mem_cons_of_mem c member)) _
          (started.add c), Composing.reversed_add_ascii started (small c List.mem_cons_self),
          List.reverse_cons, List.append_assoc, List.singleton_append]
  have started : ∀ (text : Text) (state : Composing), state.IsStarted ->
      (text.foldl Composing.add state).IsStarted := by
    intro text
    induction text with
    | nil => exact fun _ started => started
    | cons c rest ih => exact fun state started => ih _ (started.add c)
  rw [compose, compose, decompose_append_ascii text small, List.foldl_append,
    kept _ (started _ _ fun _ => rfl), List.reverse_append, List.reverse_reverse]

end FileShare.Unicode
