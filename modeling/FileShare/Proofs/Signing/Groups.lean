import FileShare.Signing.Canonical

/-!
# Groups in ascending order

The groups of a list of pairs are in strictly ascending order of their names,
so no name stands in two of them.  A name is found with all values that the
pairs give for it, in the order of the pairs, and is not found if no pair has
it.
-/

set_option autoImplicit false

namespace FileShare.Canonical

/-- Each group has a smaller name than those after it. -/
def Groups.Ascending (groups : Groups) : Prop :=
  groups.Pairwise fun first second => first.1 < second.1

def valuesOf (pairs : List (Text × Text)) (name : Text) : List Text :=
  (pairs.filter fun pair => pair.1 == name).map (·.2)

theorem valuesOf_cons (pair : Text × Text) (rest : List (Text × Text)) (name : Text) :
    valuesOf (pair :: rest) name =
      if pair.1 = name then pair.2 :: valuesOf rest name else valuesOf rest name := by
  by_cases same : pair.1 = name
  · simp [valuesOf, same]
  · simp [valuesOf, same]

theorem Groups.mem_insert {name value : Text} {groups : Groups} {group : Text × List Text}
    (member : group ∈ groups.insert name value) :
    group.1 = name ∨ ∃ other ∈ groups, other.1 = group.1 := by
  induction groups with
  | nil =>
      rw [Groups.insert, List.mem_singleton] at member
      exact Or.inl (by rw [member])
  | cons head rest ih =>
      obtain ⟨other, values⟩ := head
      rw [Groups.insert] at member
      split at member
      · rcases List.mem_cons.mp member with rfl | tail
        · exact Or.inr ⟨(other, values), List.mem_cons_self, rfl⟩
        · exact Or.inr ⟨group, List.mem_cons_of_mem _ tail, rfl⟩
      · split at member
        · rcases List.mem_cons.mp member with rfl | tail
          · exact Or.inl rfl
          · exact Or.inr ⟨group, tail, rfl⟩
        · rcases List.mem_cons.mp member with rfl | tail
          · exact Or.inr ⟨(other, values), List.mem_cons_self, rfl⟩
          · rcases ih tail with same | ⟨found, place, same⟩
            · exact Or.inl same
            · exact Or.inr ⟨found, List.mem_cons_of_mem _ place, same⟩

theorem Groups.Ascending.insert {groups : Groups} (ascending : groups.Ascending)
    (name value : Text) : (groups.insert name value).Ascending := by
  induction groups with
  | nil => exact List.pairwise_singleton _ _
  | cons head rest ih =>
      obtain ⟨other, values⟩ := head
      obtain ⟨above, tail⟩ := List.pairwise_cons.mp ascending
      rw [Groups.insert]
      split
      · exact List.pairwise_cons.mpr ⟨above, tail⟩
      · rename_i different
        split
        · rename_i smaller
          refine List.pairwise_cons.mpr ⟨fun group member => ?_, ascending⟩
          rcases List.mem_cons.mp member with rfl | place
          · exact smaller
          · exact List.lt_trans smaller (above group place)
        · rename_i noSmaller
          have greater : other < name :=
            (List.le_iff_lt_or_eq.mp (List.not_lt.mp noSmaller)).resolve_right (Ne.symm different)
          refine List.pairwise_cons.mpr ⟨fun group member => ?_, ih tail⟩
          rcases Groups.mem_insert member with same | ⟨found, place, same⟩
          · rw [same]
            exact greater
          · rw [← same]
            exact above found place

theorem Groups.lookup_first (other : Text) (values : List Text) (rest : Groups) (name : Text) :
    List.lookup name ((other, values) :: rest) =
      if name = other then some values else rest.lookup name := by
  by_cases same : name = other
  · subst same
    rw [List.lookup_cons_self, if_pos rfl]
  · rw [List.lookup_cons, beq_eq_false_iff_ne.mpr same, if_neg same]

theorem Groups.lookup_below {groups : Groups} {name : Text}
    (below : ∀ group ∈ groups, name < group.1) : groups.lookup name = none := by
  rw [List.lookup_eq_none_iff]
  intro group member
  have different : name ≠ group.1 := by
    intro same
    have smaller := below group member
    rw [same] at smaller
    exact List.lt_irrefl _ smaller
  exact bne_iff_ne.mpr different

theorem Groups.Ascending.lookup_of_mem {groups : Groups} (ascending : groups.Ascending)
    {group : Text × List Text} (member : group ∈ groups) :
    groups.lookup group.1 = some group.2 := by
  induction groups with
  | nil => exact absurd member List.not_mem_nil
  | cons head rest ih =>
      obtain ⟨above, tail⟩ := List.pairwise_cons.mp ascending
      rw [Groups.lookup_first]
      rcases List.mem_cons.mp member with rfl | place
      · rw [if_pos rfl]
      · have different : group.1 ≠ head.1 := by
          intro same
          have smaller := above group place
          rw [same] at smaller
          exact List.lt_irrefl _ smaller
        rw [if_neg different, ih tail place]

/-- The group of the inserted name gets the value, and no other group changes. -/
theorem Groups.Ascending.lookup_insert {groups : Groups} (ascending : groups.Ascending)
    (name value sought : Text) :
    (groups.insert name value).lookup sought =
      if sought = name then some ((groups.lookup name).getD [] ++ [value])
      else groups.lookup sought := by
  induction groups with
  | nil =>
      rw [Groups.insert, Groups.lookup_first]
      rfl
  | cons head rest ih =>
      obtain ⟨other, values⟩ := head
      obtain ⟨above, tail⟩ := List.pairwise_cons.mp ascending
      rw [Groups.insert]
      split
      · rename_i same
        subst same
        simp only [Groups.lookup_first, if_true, Option.getD_some]
        split <;> rfl
      · rename_i different
        split
        · rename_i smaller
          -- The new group begins with nothing, because its name is below all that are there.
          have missing : List.lookup name ((other, values) :: rest) = none := by
            apply Groups.lookup_below
            intro group member
            rcases List.mem_cons.mp member with rfl | place
            · exact smaller
            · exact List.lt_trans smaller (above group place)
          rw [Groups.lookup_first, missing]
          rfl
        · simp only [Groups.lookup_first, ih tail, if_neg different]
          by_cases here : sought = name
          · rw [here, if_neg different, if_pos rfl, if_pos rfl]
          · rw [if_neg here, if_neg here]

/-- The groups of further pairs hold the values found before and the new ones. -/
theorem Groups.foldl_insert (pairs : List (Text × Text)) {groups : Groups}
    (ascending : groups.Ascending) :
    let result : Groups := pairs.foldl (fun groups pair => groups.insert pair.1 pair.2) groups
    result.Ascending ∧ ∀ name, result.lookup name =
      if valuesOf pairs name = [] then groups.lookup name
      else some ((groups.lookup name).getD [] ++ valuesOf pairs name) := by
  induction pairs generalizing groups with
  | nil => exact ⟨ascending, fun _ => rfl⟩
  | cons pair rest ih =>
      obtain ⟨ordered, found⟩ := ih (ascending.insert pair.1 pair.2)
      refine ⟨ordered, fun name => ?_⟩
      rw [List.foldl_cons, found, ascending.lookup_insert, valuesOf_cons]
      by_cases same : name = pair.1
      · subst same
        by_cases none : valuesOf rest pair.1 = []
        · simp [none]
        · simp [none]
      · simp only [if_neg same, if_neg (Ne.symm same)]

theorem Groups.ofPairs_ascending (pairs : List (Text × Text)) :
    (Groups.ofPairs pairs).Ascending :=
  (Groups.foldl_insert pairs List.Pairwise.nil).1

theorem Groups.lookup_ofPairs (pairs : List (Text × Text)) (name : Text) :
    (Groups.ofPairs pairs).lookup name =
      if valuesOf pairs name = [] then none else some (valuesOf pairs name) :=
  (Groups.foldl_insert pairs List.Pairwise.nil).2 name

/-- Every group holds the values that the pairs give for its name, and they give
some. -/
theorem Groups.mem_ofPairs {pairs : List (Text × Text)} {group : Text × List Text}
    (member : group ∈ Groups.ofPairs pairs) :
    valuesOf pairs group.1 ≠ [] ∧ group.2 = valuesOf pairs group.1 := by
  have found := Groups.lookup_ofPairs pairs group.1
  rw [(Groups.ofPairs_ascending pairs).lookup_of_mem member] at found
  split at found
  · exact absurd found (Option.some_ne_none _)
  · rename_i given
    exact ⟨given, Option.some.inj found⟩

theorem mem_valuesOf {pairs : List (Text × Text)} {name value : Text} :
    value ∈ valuesOf pairs name ↔ (name, value) ∈ pairs := by
  constructor
  · intro member
    obtain ⟨pair, kept, rfl⟩ := List.mem_map.mp member
    obtain ⟨origin, same⟩ := List.mem_filter.mp kept
    rw [← eq_of_beq same]
    exact origin
  · intro member
    exact List.mem_map.mpr ⟨(name, value), List.mem_filter.mpr ⟨member, beq_self_eq_true name⟩, rfl⟩

theorem Groups.mem_names_ofPairs {pairs : List (Text × Text)} {name : Text} :
    name ∈ (Groups.ofPairs pairs).map (·.1) ↔ ∃ value, (name, value) ∈ pairs := by
  constructor
  · intro member
    obtain ⟨group, place, rfl⟩ := List.mem_map.mp member
    obtain ⟨value, given⟩ := List.exists_mem_of_ne_nil _ (Groups.mem_ofPairs place).1
    exact ⟨value, mem_valuesOf.mp given⟩
  · rintro ⟨value, given⟩
    have some : valuesOf pairs name ≠ [] := List.ne_nil_of_mem (mem_valuesOf.mpr given)
    have found := Groups.lookup_ofPairs pairs name
    rw [if_neg some] at found
    obtain ⟨front, back, split, -⟩ := List.lookup_eq_some_iff.mp found
    rw [split]
    exact List.mem_map_of_mem (List.mem_append_right front List.mem_cons_self)

theorem Groups.lookup_map_values {α : Type} (f : List Text → α) (groups : Groups) (name : Text) :
    (groups.map fun group => (group.1, f group.2)).lookup name = (groups.lookup name).map f := by
  induction groups with
  | nil => rfl
  | cons group rest ih =>
      rw [List.map_cons, List.lookup_cons, List.lookup_cons]
      split
      · rfl
      · exact ih

end FileShare.Canonical
