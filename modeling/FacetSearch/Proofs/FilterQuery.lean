import FacetSearch.Filter
import Mathlib.Tactic

/-!
# Filters and their queries

An id filter is decided twice: by `IdFilter.matches` on the value of its field, and in the engine by
the query that `IdFilter.toQuery` composes. Both agree on every filter that lists something, and on
every filter of plain values. A path filter that lists nothing rejects every value, but a
disjunction of no clauses demands nothing, so its query only rejects the documents that an excluded
path rejects.
-/

namespace FacetSearch

/-! ## The meaning of composed queries -/

namespace Query

variable (meaning : TextQuery → FieldValues → Bool) (document : FieldValues)

theorem matchesAny_map {α : Type} (f : α → Query) (list : List α) :
    matchesAny meaning document (list.map f) =
      list.any fun a ↦ (f a).matches meaning document := by
  induction list with
  | nil => simp [matchesAny]
  | cons a rest ih => simp [matchesAny, ih]

@[simp] theorem matches_termIs (field : String) (value : Json) :
    (termIs field value).matches meaning document = (document field == some value) := by
  simp [termIs, Query.matches, StringMap.singleton, StringMap.insert, StringMap.empty,
    Entries.insert]

@[simp] theorem matches_fieldStartsWith (field start : String) :
    (fieldStartsWith field start).matches meaning document =
      (document.string? field).any fun value ↦ FacetSearch.startsWith value start := by
  simp [fieldStartsWith, Query.matches, StringMap.singleton, StringMap.insert, StringMap.empty,
    Entries.insert, FacetSearch.startsWith]

/-- A disjunction of no queries demands nothing. -/
@[simp] theorem matches_anyOf_nil : (anyOf []).matches meaning document = true := by
  simp [anyOf, Query.matches, matchesAll, matchesAny]

theorem matches_anyOf_map {α : Type} (f : α → Query) {list : List α} (hlist : list ≠ []) :
    (anyOf (list.map f)).matches meaning document =
      list.any fun a ↦ (f a).matches meaning document := by
  have hshould : (list.map f).isEmpty = false := by simpa using hlist
  simp [anyOf, Query.matches, matchesAll, matchesAny, hshould, matchesAny_map]

/-- One query and none of some others. -/
theorem matches_bool_mustNot (query other : Query) :
    (bool [query] [] [other] []).matches meaning document =
      (query.matches meaning document && !other.matches meaning document) := by
  simp [Query.matches, matchesAll, matchesAny]

@[simp] theorem matches_without_field (field : String) :
    (bool [] [] [hasField field] []).matches meaning document = (document field).isNone := by
  simp [Query.matches, matchesAll, matchesAny]

end Query

namespace StringSet

theorem isEmpty_iff {set : StringSet} : set.isEmpty ↔ set.toList = [] := by
  simp [isEmpty]

theorem toList_ne_nil {set : StringSet} (hset : set.isEmpty = false) : set.toList ≠ [] := by
  intro hnil
  rw [isEmpty_iff.mpr hnil] at hset
  cases hset

end StringSet

/-! ## Filters of plain values and of paths -/

namespace IdFilter

/-- The filter takes plain values, or lists at least one path. -/
def ListsPaths : IdFilter → Prop
  | plain .. => True
  | path _ values _ => values.isEmpty = false

variable (meaning : TextQuery → FieldValues → Bool) {document : FieldValues}

theorem string?_of_holds {field : String} {candidate : Option String}
    (hholds : document field = candidate.map .str) : document.string? field = candidate := by
  cases candidate <;> simp [FieldValues.string?, hholds, Json.str?]

/-- A listed path admits a value: it is the value, or a folder that the value lies in. -/
def admits (path value : String) : Bool :=
  if isFolder path then startsWith value path else value == path

theorem matches_pathQuery {field : String} {candidate : Option String}
    (hholds : document field = candidate.map .str) (path : String) :
    (pathQuery field path).matches meaning document = candidate.any (admits path) := by
  unfold pathQuery admits
  split
  · rw [Query.matches_fieldStartsWith, string?_of_holds hholds]
  · rw [Query.matches_termIs, hholds]
    cases candidate with
    | none => rfl
    | some value => simp [beq_eq_decide]

/-- The listed paths of a filter, without regard to the excluded ones. -/
theorem matches_anyOf_paths {field : String} {values : StringSet} {candidate : Option String}
    (hvalues : values.isEmpty = false) (hholds : document field = candidate.map .str) :
    (Query.anyOf (values.toList.map (pathQuery field))).matches meaning document =
      candidate.any fun value ↦ values.toList.any fun path ↦ admits path value := by
  rw [Query.matches_anyOf_map meaning document _ (StringSet.toList_ne_nil hvalues)]
  simp only [matches_pathQuery meaning hholds]
  cases candidate <;> simp

/-- The excluded paths of a filter, of which there are some. -/
theorem matches_anyOf_excluded (field : String) {excluded : StringSet}
    (hexcluded : excluded.isEmpty = false) :
    (Query.anyOf (excluded.toList.map (.fieldStartsWith field ·))).matches meaning document =
      (document.string? field).any fun value ↦ excluded.toList.any (startsWith value) := by
  rw [Query.matches_anyOf_map meaning document _ (StringSet.toList_ne_nil hexcluded)]
  simp only [Query.matches_fieldStartsWith]
  cases document.string? field <;> simp

/-- The query of a path filter asks for the listed paths and rejects the excluded ones, whether or
not there are any of either. -/
theorem matches_pathsQuery (field : String) (values excluded : StringSet) :
    (pathsQuery field values excluded).matches meaning document =
      ((Query.anyOf (values.toList.map (pathQuery field))).matches meaning document &&
        !(document.string? field).any fun value ↦ excluded.toList.any (startsWith value)) := by
  unfold pathsQuery
  by_cases hexcluded : excluded.isEmpty
  · have hnone : excluded.toList = [] := StringSet.isEmpty_iff.mp hexcluded
    cases document.string? field <;> simp [hexcluded, hnone]
  · rw [Bool.not_eq_true] at hexcluded
    simp only [hexcluded, Bool.false_eq_true, if_false]
    rw [Query.matches_bool_mustNot, matches_anyOf_excluded meaning field hexcluded]

theorem matches_toQuery_path {field : String} {values : StringSet} (excluded : StringSet)
    {candidate : Option String} (hvalues : values.isEmpty = false)
    (hholds : document field = candidate.map .str) :
    (path field values excluded).toQuery.matches meaning document =
      (path field values excluded).matches candidate := by
  have hstring : document.string? field = candidate := string?_of_holds hholds
  rw [toQuery, matches_pathsQuery, matches_anyOf_paths meaning hvalues hholds, hstring]
  cases candidate with
  | none => rfl
  | some value => rfl

theorem matches_toQuery_plain {field : String} (values : StringSet) {candidate : Option String}
    (hholds : document field = candidate.map .str) :
    (plain field values).toQuery.matches meaning document =
      (plain field values).matches candidate := by
  unfold toQuery
  by_cases hvalues : values.isEmpty
  · have hnone : values.toList = [] := StringSet.isEmpty_iff.mp hvalues
    cases candidate <;> simp [hvalues, hholds, IdFilter.matches, StringSet.contains, hnone]
  · rw [Bool.not_eq_true] at hvalues
    simp only [hvalues, Bool.false_eq_true, if_false]
    split
    · next hid =>
      subst hid
      rw [Query.matches, string?_of_holds hholds]
      cases candidate with
      | none => simp [IdFilter.matches, hvalues]
      | some value => rfl
    · rw [Query.matches_anyOf_map meaning document _ (StringSet.toList_ne_nil hvalues)]
      simp only [Query.matches_termIs, hholds]
      cases candidate with
      | none => simp [IdFilter.matches, hvalues]
      | some value =>
        have hstr (other : String) :
            (some (Json.str value) == some (Json.str other)) = (value == other) := by
          simp [beq_eq_decide]
        simp only [Option.map_some, hstr]
        exact List.contains_eq_any_beq.symm

/-- The query of a filter matches a document exactly if the filter matches the value that the
document has in the filter's field, or its lack of one. -/
theorem toQuery_matches_iff (filter : IdFilter) (hlists : filter.ListsPaths)
    (candidate : Option String) (hholds : document filter.field = candidate.map .str) :
    filter.toQuery.matches meaning document ↔ filter.matches candidate := by
  cases filter with
  | plain field values =>
    have hfield : document field = candidate.map .str := hholds
    rw [matches_toQuery_plain meaning values hfield]
  | path field values excluded =>
    have hfield : document field = candidate.map .str := hholds
    rw [matches_toQuery_path meaning excluded hlists hfield]

theorem toQuery_matches_iff_in_folder :
    (path "path" (.ofList ["a/", "b"]) (.ofList ["a/b/"])).ListsPaths ∧
      ((path "path" (.ofList ["a/", "b"]) (.ofList ["a/b/"])).toQuery.matches
          (fun _ _ ↦ false) (fun _ ↦ some (.str "a/c")) ↔
        (path "path" (.ofList ["a/", "b"]) (.ofList ["a/b/"])).matches (some "a/c")) :=
  have hlists : (path "path" (.ofList ["a/", "b"]) (.ofList ["a/b/"])).ListsPaths := by
    change (StringSet.ofList ["a/", "b"]).isEmpty = false
    decide
  ⟨hlists, toQuery_matches_iff (fun _ _ ↦ false) _ hlists (some "a/c") rfl⟩

/-! ## Filters that list no path -/

/-- A filter that lists no path matches no value, but its query rejects a document only if the
document's value is an excluded path or lies below one. -/
theorem pathsQuery_empty_rejects_iff (field : String) (excluded : StringSet)
    (document : FieldValues) :
    ((pathsQuery field .empty excluded).matches meaning document = false ↔
      ∃ value, document.string? field = some value ∧
        ∃ path ∈ excluded.toList, startsWith value path) ∧
    ∀ candidate, (path field .empty excluded).matches candidate = false := by
  constructor
  · rw [matches_pathsQuery]
    cases document.string? field <;> simp [StringSet.empty]
  · intro candidate
    cases candidate <;> simp [IdFilter.matches, StringSet.empty]

/-- Excluding one path lets every other one through. -/
theorem pathsQuery_empty_matches_other :
    (pathsQuery "path" .empty (.ofList ["a/"])).matches (fun _ _ ↦ false)
        (fun _ ↦ some (.str "z")) = true ∧
      (path "path" .empty (.ofList ["a/"])).matches (some "z") = false := by
  decide

end IdFilter

end FacetSearch
