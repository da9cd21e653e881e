import FileShare.Text.Blank

/-!
# Trimming

Trimming leaves a stretch of the list, and what it takes away does not matter to
a wider trimming.  A list whose ends stay is left as it is.
-/

set_option autoImplicit false

namespace FileShare.Text

theorem not_isBlank_of_visible {c : Char} (visible : 33 ≤ c.toNat ∧ c.toNat ≤ 126) :
    isBlank c = false := by
  simp [isBlank, blankRanges]
  omega

variable {α : Type} {p : α -> Bool}

/-- What is taken away stands at the two ends and satisfies the predicate. -/
theorem trimBy_split (p : α -> Bool) (l : List α) :
    ∃ front back, l = front ++ trimBy p l ++ back ∧ (∀ a ∈ front, p a = true) ∧
      ∀ a ∈ back, p a = true := by
  refine ⟨l.takeWhile p, ((l.dropWhile p).reverse.takeWhile p).reverse, ?_, ?_, ?_⟩
  · rw [trimBy, List.append_assoc, ← List.reverse_append, List.takeWhile_append_dropWhile,
      List.reverse_reverse, List.takeWhile_append_dropWhile]
  · exact List.all_eq_true.mp List.all_takeWhile
  · intro a member
    exact List.all_eq_true.mp List.all_takeWhile a (List.mem_reverse.mp member)

theorem mem_of_mem_trimBy {l : List α} {a : α} (member : a ∈ trimBy p l) : a ∈ l := by
  obtain ⟨front, back, split, -, -⟩ := trimBy_split p l
  rw [split]
  exact List.mem_append_left _ (List.mem_append_right _ member)

/-- What satisfies the predicate at the two ends does not change the trimmed list. -/
theorem trimBy_append {front back : List α} (frontAll : ∀ a ∈ front, p a = true)
    (backAll : ∀ a ∈ back, p a = true) (l : List α) :
    trimBy p (front ++ l ++ back) = trimBy p l := by
  have backReversed : ∀ a ∈ back.reverse, p a = true :=
    fun a member => backAll a (List.mem_reverse.mp member)
  rw [trimBy, trimBy, List.append_assoc, List.dropWhile_append_of_pos frontAll,
    List.dropWhile_append]
  split
  · rename_i none
    have gone : (back ++ []).dropWhile p = [] := List.dropWhile_append_of_pos backAll
    rw [List.append_nil] at gone
    rw [gone, List.isEmpty_iff.mp none]
  · rw [List.reverse_append, List.dropWhile_append_of_pos backReversed]

/-- A list that begins and ends with elements that stay is left as it is. -/
theorem trimBy_eq_self {l : List α} (first : ∀ a, l.head? = some a -> p a = false)
    (last : ∀ a, l.getLast? = some a -> p a = false) : trimBy p l = l := by
  have stays : ∀ list : List α, (∀ a, list.head? = some a -> p a = false) ->
      list.dropWhile p = list := by
    intro list head
    cases list with
    | nil => rfl
    | cons a rest => rw [List.dropWhile_cons, head a rfl, if_neg Bool.false_ne_true]
  rw [trimBy, stays l first, stays l.reverse (by rwa [List.head?_reverse]), List.reverse_reverse]

theorem trimBy_of_none {l : List α} (none : ∀ a ∈ l, p a = false) : trimBy p l = l :=
  trimBy_eq_self (fun a first => none a (List.mem_of_head? first))
    fun a last => none a (List.mem_of_getLast? last)

/-- So is one between two parts without such elements. -/
theorem trimBy_between {front back : List α} (frontNone : ∀ a ∈ front, p a = false)
    (begins : front ≠ []) (backNone : ∀ a ∈ back, p a = false) (ends : back ≠ [])
    (middle : List α) : trimBy p (front ++ (middle ++ back)) = front ++ (middle ++ back) := by
  apply trimBy_eq_self
  · intro a first
    rw [List.head?_append, List.head?_eq_some_head begins, Option.some_or] at first
    rw [← Option.some.inj first]
    exact frontNone _ (List.head_mem begins)
  · intro a last
    rw [List.getLast?_append, List.getLast?_append, List.getLast?_eq_some_getLast ends,
      Option.some_or, Option.some_or] at last
    rw [← Option.some.inj last]
    exact backNone _ (List.getLast_mem ends)

theorem dropWhile_congr {q : α -> Bool} {l : List α} (same : ∀ a ∈ l, p a = q a) :
    l.dropWhile p = l.dropWhile q := by
  induction l with
  | nil => rfl
  | cons a rest ih =>
      have tail := ih fun b member => same b (List.mem_cons_of_mem a member)
      simp only [List.dropWhile_cons, same a List.mem_cons_self, tail]

theorem trimBy_congr {q : α -> Bool} {l : List α} (same : ∀ a ∈ l, p a = q a) :
    trimBy p l = trimBy q l := by
  have inside : ∀ a ∈ (l.dropWhile q).reverse, p a = q a := by
    intro a member
    exact same a ((List.dropWhile_sublist _).subset (List.mem_reverse.mp member))
  rw [trimBy, trimBy, dropWhile_congr same, dropWhile_congr inside]

theorem trimBy_map {β : Type} (f : β -> α) (l : List β) :
    trimBy p (l.map f) = (trimBy (p ∘ f) l).map f := by
  simp only [trimBy, List.dropWhile_map, ← List.map_reverse]

theorem trimBy_eq_nil_iff {l : List α} : trimBy p l = [] ↔ ∀ a ∈ l, p a = true := by
  obtain ⟨front, back, split, frontAll, backAll⟩ := trimBy_split p l
  constructor
  · intro empty
    rw [empty, List.append_nil] at split
    rw [split]
    exact List.forall_mem_append.mpr ⟨frontAll, backAll⟩
  · intro all
    have none : trimBy p ([] ++ [] ++ l) = trimBy p [] :=
      trimBy_append (List.forall_mem_nil _) all []
    exact none

end FileShare.Text
