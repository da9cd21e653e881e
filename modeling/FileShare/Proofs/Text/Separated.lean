import FileShare.Text.Basic

/-!
# Texts with separators

A piece that does not hold the separator ends where the next separator stands.
So cutting at the first separator, and splitting at all of them, undo the
joining of such pieces, and two joined texts are equal only if their pieces are.
Joining in turn undoes the splitting, and a beginning that was dropped can be put back.
A search along a text ends at its first element that does not go on.
-/

set_option autoImplicit false

namespace FileShare.Text

/-- Joining brings in nothing but the pieces and what stands between them. -/
theorem mem_of_mem_intercalate {α : Type} {between : List α} {list : List (List α)} {a : α}
    (member : a ∈ List.intercalate between list) :
    a ∈ between ∨ ∃ piece ∈ list, a ∈ piece := by
  induction list with
  | nil => exact absurd member List.not_mem_nil
  | cons piece more ih =>
      by_cases last : more = []
      · subst last
        rw [List.intercalate_singleton] at member
        exact Or.inr ⟨piece, List.mem_cons_self, member⟩
      · rw [List.intercalate_cons_of_ne_nil last, List.mem_append, List.mem_append] at member
        rcases member with (here | joint) | later
        · exact Or.inr ⟨piece, List.mem_cons_self, here⟩
        · exact Or.inl joint
        · rcases ih later with joint | ⟨other, place, inside⟩
          · exact Or.inl joint
          · exact Or.inr ⟨other, List.mem_cons_of_mem _ place, inside⟩

theorem intercalate_append {α : Type} {between : List α} {first second : List (List α)}
    (some : first ≠ []) (more : second ≠ []) :
    List.intercalate between (first ++ second) =
      List.intercalate between first ++ between ++ List.intercalate between second := by
  induction first with
  | nil => exact absurd rfl some
  | cons piece rest ih =>
      cases rest with
      | nil =>
          rw [List.singleton_append, List.intercalate_cons_of_ne_nil more,
            List.intercalate_singleton]
      | cons next others =>
          have longer : next :: others ++ second ≠ [] := List.cons_ne_nil _ _
          rw [List.cons_append, List.intercalate_cons_of_ne_nil longer,
            List.intercalate_cons_of_ne_nil (List.cons_ne_nil _ _),
            ih (List.cons_ne_nil _ _)]
          simp only [List.append_assoc]

variable {α : Type} [DecidableEq α] {sep : α}

theorem cut_append {front : List α} (free : sep ∉ front) (rest : List α) :
    cut sep (front ++ sep :: rest) = (front, some rest) := by
  induction front with
  | nil => simp [cut]
  | cons a more ih =>
      have head : a ≠ sep := fun same => free (same ▸ List.mem_cons_self)
      have tail := ih fun member => free (List.mem_cons_of_mem a member)
      simp only [List.cons_append, cut, if_neg head, tail]

theorem cut_of_not_mem {text : List α} (free : sep ∉ text) : cut sep text = (text, none) := by
  induction text with
  | nil => rfl
  | cons a more ih =>
      have head : a ≠ sep := fun same => free (same ▸ List.mem_cons_self)
      have tail := ih fun member => free (List.mem_cons_of_mem a member)
      simp only [cut, if_neg head, tail]

/-- The first separator shows where the front ends. -/
theorem append_sep_inj {front₁ front₂ rest₁ rest₂ : List α} (free₁ : sep ∉ front₁)
    (free₂ : sep ∉ front₂) (same : front₁ ++ sep :: rest₁ = front₂ ++ sep :: rest₂) :
    front₁ = front₂ ∧ rest₁ = rest₂ := by
  have cuts := congrArg (cut sep) same
  rw [cut_append free₁, cut_append free₂] at cuts
  exact ⟨congrArg Prod.fst cuts, Option.some.inj (congrArg Prod.snd cuts)⟩

/-- What follows the front is nothing, or begins with the separator. -/
def BeginsWith (sep : α) (rest : List α) : Prop := rest = [] ∨ ∃ more, rest = sep :: more

/-- A front without the separator ends where a rest that begins with it does. -/
theorem append_begins_inj {front₁ front₂ rest₁ rest₂ : List α} (free₁ : sep ∉ front₁)
    (free₂ : sep ∉ front₂) (begins₁ : BeginsWith sep rest₁) (begins₂ : BeginsWith sep rest₂)
    (same : front₁ ++ rest₁ = front₂ ++ rest₂) : front₁ = front₂ ∧ rest₁ = rest₂ := by
  have cutFront : ∀ {front rest : List α}, sep ∉ front → BeginsWith sep rest ->
      (cut sep (front ++ rest)).1 = front := by
    intro front rest free begins
    rcases begins with rfl | ⟨more, rfl⟩
    · rw [List.append_nil, cut_of_not_mem free]
    · rw [cut_append free]
  have fronts : front₁ = front₂ := by
    rw [← cutFront free₁ begins₁, same, cutFront free₂ begins₂]
  exact ⟨fronts, List.append_cancel_left (fronts ▸ same)⟩

theorem pieces_of_not_mem {text : List α} (free : sep ∉ text) : pieces sep text = [text] := by
  induction text with
  | nil => rfl
  | cons a more ih =>
      have head : a ≠ sep := fun same => free (same ▸ List.mem_cons_self)
      have tail := ih fun member => free (List.mem_cons_of_mem a member)
      simp only [pieces, if_neg head, tail]

theorem pieces_append_sep {front : List α} (free : sep ∉ front) (rest : List α) :
    pieces sep (front ++ sep :: rest) = front :: pieces sep rest := by
  induction front with
  | nil => simp [pieces]
  | cons a more ih =>
      have head : a ≠ sep := fun same => free (same ▸ List.mem_cons_self)
      have tail := ih fun member => free (List.mem_cons_of_mem a member)
      simp only [List.cons_append, pieces, if_neg head, tail]

theorem pieces_flatMap_cons {list : List (List α)} (free : ∀ piece ∈ list, sep ∉ piece) :
    pieces sep (list.flatMap (sep :: ·)) = [] :: list := by
  induction list with
  | nil => rfl
  | cons piece more ih =>
      have tail := ih fun other member => free other (List.mem_cons_of_mem piece member)
      have head := free piece List.mem_cons_self
      rw [List.flatMap_cons, List.cons_append, pieces, if_pos rfl]
      cases more with
      | nil => rw [List.flatMap_nil, List.append_nil, pieces_of_not_mem head]
      | cons next rest =>
          rw [List.flatMap_cons, List.cons_append, pieces, if_pos rfl] at tail
          rw [List.flatMap_cons, List.cons_append, pieces_append_sep head]
          rw [(List.cons.inj tail).2]

/-- Pieces that are each written behind a separator are told apart. -/
theorem flatMap_cons_inj {list₁ list₂ : List (List α)} (free₁ : ∀ piece ∈ list₁, sep ∉ piece)
    (free₂ : ∀ piece ∈ list₂, sep ∉ piece)
    (same : list₁.flatMap (sep :: ·) = list₂.flatMap (sep :: ·)) : list₁ = list₂ := by
  have split := congrArg (pieces sep) same
  rw [pieces_flatMap_cons free₁, pieces_flatMap_cons free₂] at split
  exact (List.cons.inj split).2

/-- As many pieces, each written in front of a separator, are told apart from each
other and from what follows them. -/
theorem flatMap_append_sep_inj {list₁ list₂ : List (List α)}
    {after₁ after₂ : List α} (free₁ : ∀ piece ∈ list₁, sep ∉ piece)
    (free₂ : ∀ piece ∈ list₂, sep ∉ piece) (count : list₁.length = list₂.length)
    (same : list₁.flatMap (· ++ [sep]) ++ after₁ = list₂.flatMap (· ++ [sep]) ++ after₂) :
    list₁ = list₂ ∧ after₁ = after₂ := by
  induction list₁ generalizing list₂ with
  | nil =>
      have none : list₂ = [] := List.length_eq_zero_iff.mp count.symm
      subst none
      exact ⟨rfl, same⟩
  | cons piece₁ more₁ ih =>
      cases list₂ with
      | nil => exact absurd count (Nat.succ_ne_zero _)
      | cons piece₂ more₂ =>
          rw [List.flatMap_cons, List.flatMap_cons, List.append_assoc, List.append_assoc,
            List.append_assoc, List.append_assoc, List.singleton_append, List.singleton_append]
            at same
          obtain ⟨head, tail⟩ := append_sep_inj (free₁ piece₁ List.mem_cons_self)
            (free₂ piece₂ List.mem_cons_self) same
          obtain ⟨pieces, after⟩ :=
            ih (fun other member => free₁ other (List.mem_cons_of_mem _ member))
              (fun other member => free₂ other (List.mem_cons_of_mem _ member))
              (Nat.succ.inj count) tail
          exact ⟨by rw [head, pieces], after⟩

/-! ## Taking apart and joining -/

theorem pieces_ne_nil (text : List α) : pieces sep text ≠ [] := by
  cases text with
  | nil => exact List.cons_ne_nil _ _
  | cons a more =>
      rw [pieces]
      split
      · exact List.cons_ne_nil _ _
      · split
        · exact List.cons_ne_nil _ _
        · exact List.cons_ne_nil _ _

theorem pieces_append (front rest : List α) :
    pieces sep (front ++ sep :: rest) = pieces sep front ++ pieces sep rest := by
  induction front with
  | nil => simp [pieces]
  | cons a more ih =>
      by_cases same : a = sep
      · simp only [List.cons_append, pieces, if_pos same, ih]
      · simp only [List.cons_append, pieces, if_neg same, ih]
        cases split : pieces sep more with
        | nil => exact absurd split (pieces_ne_nil more)
        | cons piece others => rfl

/-- What holds no separator belongs to the last piece of what it stands behind. -/
theorem pieces_append_of_not_mem {rest : List α} (free : sep ∉ rest) (text : List α) :
    ∃ front last, pieces sep text = front ++ [last] ∧
      pieces sep (text ++ rest) = front ++ [last ++ rest] := by
  induction text with
  | nil => exact ⟨[], [], rfl, pieces_of_not_mem free⟩
  | cons a more ih =>
      obtain ⟨front, last, before, after⟩ := ih
      by_cases same : a = sep
      · exact ⟨[] :: front, last, by simp only [pieces, if_pos same, before, List.cons_append],
          by simp only [List.cons_append, pieces, if_pos same, after]⟩
      · cases front with
        | nil =>
            exact ⟨[], a :: last, by simp only [pieces, if_neg same, before, List.nil_append],
              by simp only [List.cons_append, pieces, if_neg same, after, List.nil_append]⟩
        | cons piece others =>
            exact ⟨(a :: piece) :: others, last,
              by simp only [pieces, if_neg same, before, List.cons_append],
              by simp only [List.cons_append, pieces, if_neg same, after]⟩

theorem mem_of_mem_pieces {text piece : List α} (member : piece ∈ pieces sep text) {a : α}
    (inside : a ∈ piece) : a ∈ text ∧ a ≠ sep := by
  induction text generalizing piece with
  | nil =>
      rw [pieces, List.mem_singleton] at member
      rw [member] at inside
      exact absurd inside List.not_mem_nil
  | cons b more ih =>
      by_cases same : b = sep
      · simp only [pieces, if_pos same, List.mem_cons] at member
        rcases member with rfl | later
        · exact absurd inside List.not_mem_nil
        · exact (ih later inside).imp_left (List.mem_cons_of_mem b)
      · simp only [pieces, if_neg same] at member
        split at member
        · rw [List.mem_singleton.mp member, List.mem_singleton] at inside
          rw [inside]
          exact ⟨List.mem_cons_self, same⟩
        · rename_i first others split
          rcases List.mem_cons.mp member with rfl | later
          · rcases List.mem_cons.mp inside with rfl | deeper
            · exact ⟨List.mem_cons_self, same⟩
            · exact (ih (split ▸ List.mem_cons_self) deeper).imp_left (List.mem_cons_of_mem b)
          · exact (ih (split ▸ List.mem_cons_of_mem first later) inside).imp_left
              (List.mem_cons_of_mem b)

theorem intercalate_pieces (text : List α) : List.intercalate [sep] (pieces sep text) = text := by
  induction text with
  | nil => exact List.intercalate_singleton
  | cons a more ih =>
      by_cases same : a = sep
      · simp only [pieces, if_pos same]
        rw [List.intercalate_cons_of_ne_nil (pieces_ne_nil more), ih, same]
        rfl
      · simp only [pieces, if_neg same]
        cases split : pieces sep more with
        | nil => exact absurd split (pieces_ne_nil more)
        | cons piece others =>
            rw [split] at ih
            cases others with
            | nil =>
                rw [List.intercalate_singleton] at ih ⊢
                rw [ih]
            | cons next rest =>
                rw [List.intercalate_cons_of_ne_nil (List.cons_ne_nil _ _)] at ih ⊢
                rw [← ih]
                rfl

/-- The last piece is empty only behind a separator. -/
theorem getLast?_pieces {text : List α}
    (empty : (pieces sep text).getLast? = some []) : text = [] ∨ text.getLast? = some sep := by
  obtain ⟨front, split⟩ := List.getLast?_eq_some_iff.mp empty
  have whole : List.intercalate [sep] (pieces sep text) = text := intercalate_pieces text
  rw [split] at whole
  by_cases alone : front = []
  · left
    rw [alone, List.nil_append, List.intercalate_singleton] at whole
    exact whole.symm
  · right
    rw [intercalate_append alone (List.cons_ne_nil _ _), List.intercalate_singleton,
      List.append_nil] at whole
    rw [← whole, List.getLast?_concat]

/-! ## Beginnings -/

theorem dropPrefix?_append {α : Type} [DecidableEq α] (start rest : List α) :
    dropPrefix? start (start ++ rest) = some rest := by
  induction start with
  | nil => rfl
  | cons a more ih => rw [List.cons_append, dropPrefix?, if_pos rfl, ih]

theorem eq_append_of_dropPrefix? {α : Type} [DecidableEq α] {start text rest : List α}
    (found : dropPrefix? start text = some rest) : text = start ++ rest := by
  induction start generalizing text with
  | nil => exact Option.some.inj found
  | cons a more ih =>
      cases text with
      | nil => cases found
      | cons b other =>
          rw [dropPrefix?] at found
          split at found
          · rename_i same
            rw [same, ih found, List.cons_append]
          · cases found

/-! ## The first element that stops a search -/

section First

variable {α : Type} {p : α -> Bool}

theorem exists_first {list : List α} (stop : ∃ a ∈ list, p a = false) :
    ∃ front a rest, list = front ++ a :: rest ∧ (∀ b ∈ front, p b = true) ∧ p a = false := by
  induction list with
  | nil =>
      obtain ⟨a, member, -⟩ := stop
      exact absurd member List.not_mem_nil
  | cons b more ih =>
      cases here : p b with
      | false => exact ⟨[], b, more, rfl, List.forall_mem_nil _, here⟩
      | true =>
          obtain ⟨a, member, stops⟩ := stop
          have later : a ∈ more := by
            refine (List.mem_cons.mp member).resolve_left fun same => ?_
            rw [same, here] at stops
            cases stops
          obtain ⟨front, c, rest, rfl, goesOn, ended⟩ := ih ⟨a, later, stops⟩
          exact ⟨b :: front, c, rest, rfl, List.forall_mem_cons.mpr ⟨here, goesOn⟩, ended⟩

theorem takeWhile_all {list : List α} (all : ∀ a ∈ list, p a = true) :
    list.takeWhile p = list := by
  rw [← List.append_nil list, List.takeWhile_append_of_pos all, List.takeWhile_nil]

theorem dropWhile_all {list : List α} (all : ∀ a ∈ list, p a = true) :
    list.dropWhile p = [] := by
  rw [← List.append_nil list, List.dropWhile_append_of_pos all, List.dropWhile_nil]

theorem takeWhile_first {front rest : List α} {a : α} (goesOn : ∀ b ∈ front, p b = true)
    (stops : p a = false) : (front ++ a :: rest).takeWhile p = front := by
  rw [List.takeWhile_append_of_pos goesOn, List.takeWhile_cons_of_neg (by simp [stops]),
    List.append_nil]

theorem dropWhile_first {front rest : List α} {a : α} (goesOn : ∀ b ∈ front, p b = true)
    (stops : p a = false) : (front ++ a :: rest).dropWhile p = a :: rest := by
  rw [List.dropWhile_append_of_pos goesOn, List.dropWhile_cons_of_neg (by simp [stops])]

theorem dropWhile_append_kept {front rest : List α} (kept : rest.dropWhile p = rest) :
    (front ++ rest).dropWhile p = front.dropWhile p ++ rest := by
  rw [List.dropWhile_append]
  split
  · rename_i none
    rw [kept, List.isEmpty_iff.mp none, List.nil_append]
  · rfl

end First

end FileShare.Text
