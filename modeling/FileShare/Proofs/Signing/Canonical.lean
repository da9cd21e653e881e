import FileShare.Proofs.Signing.Coverage
import FileShare.Proofs.Text.Order

/-!
# What the lines of fields and query hold

The `x-ms-` fields are signed with one line for each name, and so is the query, where names
count in small letters.  The lines are in ascending order of the bytes of their names, and a
line holds everything that was given for its name: the values of a field in the order in
which they were added, those of the query in ascending order.  So the text to sign does not
change when the query is written in another order or with other capitals, or when fields of
different names change places.
-/

set_option autoImplicit false

namespace FileShare.Canonical

/-- The texts are in strictly ascending order of their bytes, so that none of them repeats. -/
def BytesAscend (texts : List Text) : Prop :=
  texts.Pairwise fun first second => Text.Utf8.encode first < Text.Utf8.encode second

theorem Groups.Ascending.bytesAscend {groups : Groups} (ascending : groups.Ascending) :
    BytesAscend (groups.map (·.1)) := by
  apply List.pairwise_map.mpr
  apply List.Pairwise.imp _ ascending
  intro first second below
  exact Text.Utf8.encode_lt below

/-! ## Fields -/

/-- The names of the `x-ms-` fields, each with everything that is signed for it. -/
structure IsFieldGroups (fields : Fields) (groups : Groups) : Prop where
  ascending : BytesAscend (groups.map (·.1))
  names : ∀ name, name ∈ groups.map (·.1) ↔
    fieldMark.isPrefixOf name = true ∧ ∃ field ∈ fields, field.name = name
  values : ∀ group ∈ groups, group.2 = (fields.values group.1).map signedValue

theorem exists_mem_fieldPairs {fields : Fields} {name : Text} :
    (∃ value, (name, value) ∈ fieldPairs fields) ↔
      fieldMark.isPrefixOf name = true ∧ ∃ field ∈ fields, field.name = name := by
  constructor
  · rintro ⟨value, member⟩
    obtain ⟨field, kept, same⟩ := List.mem_map.mp member
    obtain ⟨present, marked⟩ := List.mem_filter.mp kept
    obtain rfl : field.name = name := congrArg Prod.fst same
    exact ⟨marked, field, present, rfl⟩
  · rintro ⟨marked, field, present, rfl⟩
    exact ⟨signedValue field.value,
      List.mem_map.mpr ⟨field, List.mem_filter.mpr ⟨present, marked⟩, rfl⟩⟩

theorem isFieldGroups (fields : Fields) :
    IsFieldGroups fields (Groups.ofPairs (fieldPairs fields)) where
  ascending := (Groups.ofPairs_ascending _).bytesAscend
  names name := Groups.mem_names_ofPairs.trans exists_mem_fieldPairs
  values group member := by
    obtain ⟨-, values⟩ := Groups.mem_ofPairs member
    have named : group.1 ∈ (Groups.ofPairs (fieldPairs fields)).map (·.1) :=
      List.mem_map_of_mem member
    obtain ⟨marked, -⟩ := exists_mem_fieldPairs.mp (Groups.mem_names_ofPairs.mp named)
    rw [values, valuesOf_fieldPairs fields marked]

/-! ## The query -/

/-- The names of the query in small letters, each with all values that are given for it, in
ascending order of their bytes. -/
structure IsQueryGroups (url : Url) (groups : Groups) : Prop where
  ascending : BytesAscend (groups.map (·.1))
  names : ∀ name, name ∈ groups.map (·.1) ↔
    ∃ pair ∈ url.queryPairs, Unicode.lower pair.1 = name
  sorted : ∀ group ∈ groups, group.2.Pairwise fun first second =>
    Text.Utf8.encode first ≤ Text.Utf8.encode second
  values : ∀ group ∈ groups, group.2.Perm
    ((url.queryPairs.filter fun pair => Unicode.lower pair.1 == group.1).map (·.2))

/-- The groups of pairs with the values of each in ascending order. -/
def sortedGroups (pairs : List (Text × Text)) : Groups :=
  (Groups.ofPairs pairs).map fun group => (group.1, Text.sorted group.2)

theorem names_sortedGroups (pairs : List (Text × Text)) :
    (sortedGroups pairs).map (·.1) = (Groups.ofPairs pairs).map (·.1) := by
  rw [sortedGroups, List.map_map]
  rfl

theorem queryLines_eq (url : Url) :
    queryLines url = (sortedGroups (queryPairs url)).flatMap fun group =>
      '\n' :: group.1 ++ ':' :: List.intercalate [','] group.2 := by
  rw [queryLines, sortedGroups, List.flatMap_map]
  rfl

theorem sortedGroups_ascending (pairs : List (Text × Text)) :
    (sortedGroups pairs).Ascending :=
  List.pairwise_map.mpr (Groups.ofPairs_ascending pairs)

theorem valuesOf_perm {first second : List (Text × Text)} (same : first.Perm second)
    (name : Text) : (valuesOf first name).Perm (valuesOf second name) :=
  (same.filter _).map _

/-- Groups with sorted values depend on nothing but how often each pair occurs. -/
theorem sortedGroups_congr {first second : List (Text × Text)} (same : first.Perm second) :
    sortedGroups first = sortedGroups second := by
  -- Groups in ascending order are known by their lookups.
  apply (sortedGroups_ascending first).ext (sortedGroups_ascending second)
  intro name
  have values := valuesOf_perm same name
  rw [sortedGroups, sortedGroups, Groups.lookup_map_values, Groups.lookup_map_values,
    Groups.lookup_ofPairs, Groups.lookup_ofPairs]
  by_cases absent : valuesOf first name = []
  · have absentToo : valuesOf second name = [] := (absent ▸ values).nil_eq.symm
    rw [if_pos absent, if_pos absentToo]
  · have givenToo : valuesOf second name ≠ [] := fun none => absent (none ▸ values).eq_nil
    rw [if_neg absent, if_neg givenToo, Option.map_some, Option.map_some,
      Text.sorted_congr values]

theorem exists_mem_queryPairs {url : Url} {name : Text} :
    (∃ value, (name, value) ∈ queryPairs url) ↔
      ∃ pair ∈ url.queryPairs, Unicode.lower pair.1 = name := by
  constructor
  · rintro ⟨value, member⟩
    obtain ⟨pair, given, same⟩ := List.mem_map.mp member
    exact ⟨pair, given, congrArg Prod.fst same⟩
  · rintro ⟨pair, given, rfl⟩
    exact ⟨pair.2, List.mem_map_of_mem given⟩

theorem valuesOf_queryPairs (url : Url) (name : Text) :
    valuesOf (queryPairs url) name =
      (url.queryPairs.filter fun pair => Unicode.lower pair.1 == name).map (·.2) := by
  rw [valuesOf, queryPairs, List.filter_map, List.map_map]
  rfl

theorem isQueryGroups (url : Url) : IsQueryGroups url (sortedGroups (queryPairs url)) where
  ascending := (sortedGroups_ascending _).bytesAscend
  names name := by
    rw [names_sortedGroups]
    exact Groups.mem_names_ofPairs.trans exists_mem_queryPairs
  sorted group member := by
    obtain ⟨origin, -, rfl⟩ := List.mem_map.mp member
    exact (Text.ascending_sorted origin.2).imp fun notAbove =>
      List.not_lt.mp (mt Text.Utf8.encode_lt_iff.mp notAbove)
  values group member := by
    obtain ⟨origin, place, rfl⟩ := List.mem_map.mp member
    obtain ⟨-, values⟩ := Groups.mem_ofPairs place
    rw [← valuesOf_queryPairs, ← values]
    exact Text.sorted_perm origin.2

/-! ## Requests -/

/-- The requests differ in what does not count: the order of the query and the capitals in its
names, and the order of fields of different names.  Their bodies may differ in any way. -/
structure SameUpToOrder (first second : Request) : Prop where
  method : first.method = second.method
  path : first.url.pathText = second.url.pathText
  query : (first.url.queryPairs.map fun pair => (Unicode.lower pair.1, pair.2)).Perm
    (second.url.queryPairs.map fun pair => (Unicode.lower pair.1, pair.2))
  /-- Equal names keep the order of their values. -/
  fields : ∀ name, first.fields.values name = second.fields.values name

theorem SameUpToOrder.resource_eq {first second : Request} (same : SameUpToOrder first second)
    (accountName : Text) :
    resource accountName first.url = resource accountName second.url := by
  have groups : sortedGroups (queryPairs first.url) = sortedGroups (queryPairs second.url) :=
    sortedGroups_congr same.query
  rw [resource, resource, same.path, queryLines_eq, queryLines_eq, groups]

theorem SameUpToOrder.stringToSign_eq {first second : Request} (same : SameUpToOrder first second)
    (accountName : Text) : stringToSign accountName first = stringToSign accountName second := by
  have standard := standardLines_congr same.method fun name _ => same.fields name
  have marked : fieldLines first.fields = fieldLines second.fields :=
    fieldLines_congr fun name _ => by rw [same.fields name]
  rw [stringToSign, stringToSign, standard, marked, same.resource_eq accountName]

/-- The text to sign groups the fields and the query by name, in order, and loses no value;
and it is the same for requests that differ in order and capitals only. -/
theorem canonical_groups (accountName : Text) (request : Request) :
    (∃ groups, IsFieldGroups request.fields groups ∧
      fieldLines request.fields = groups.flatMap fun group =>
        group.1 ++ ':' :: List.intercalate [','] group.2 ++ ['\n']) ∧
    (∃ groups, IsQueryGroups request.url groups ∧
      resource accountName request.url =
        '/' :: accountName ++ request.url.pathText ++ groups.flatMap fun group =>
          '\n' :: group.1 ++ ':' :: List.intercalate [','] group.2) ∧
    ∀ other, SameUpToOrder request other →
      stringToSign accountName request = stringToSign accountName other := by
  refine ⟨⟨_, isFieldGroups request.fields, rfl⟩, ⟨_, isQueryGroups request.url, ?_⟩, ?_⟩
  · rw [resource, queryLines_eq]
  · intro other same
    exact same.stringToSign_eq accountName

/-- A request with repeated names in its fields and, in both cases, in its query. -/
def mixedSample : Request :=
  { method := "PUT"
    url :=
      { scheme := "http", username := [], password := [], host := some (.domain "files")
        port := none, path := .segments ["share"], isSetApart := false
        query := some "b=2&A=1&a=0", fragment := none }
    fields := [⟨"x-ms-b", [50]⟩, ⟨"x-ms-a", [32, 49]⟩, ⟨"x-ms-b", [49]⟩]
    body := none }

def reorderedSample : Request :=
  { mixedSample with
    url := { mixedSample.url with query := some "a=0&B=2&a=1" }
    fields := [⟨"x-ms-a", [32, 49]⟩, ⟨"x-ms-b", [50]⟩, ⟨"x-ms-b", [49]⟩] }

theorem canonical_groups_reordered :
    mixedSample ≠ reorderedSample ∧ SameUpToOrder mixedSample reorderedSample ∧
      stringToSign "account" mixedSample = stringToSign "account" reorderedSample := by
  have fields : ∀ name, mixedSample.fields.values name = reorderedSample.fields.values name :=
    Fields.values_swap (by decide) [] [⟨"x-ms-b", [49]⟩]
  have same : SameUpToOrder mixedSample reorderedSample :=
    ⟨rfl, by decide, by decide +kernel, fields⟩
  obtain ⟨-, -, invariant⟩ := canonical_groups "account" mixedSample
  exact ⟨by decide, same, invariant reorderedSample same⟩

end FileShare.Canonical
