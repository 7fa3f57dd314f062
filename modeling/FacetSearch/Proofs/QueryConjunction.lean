import FacetSearch.Proofs.FilterQuery
import FacetSearch.Proofs.SearchCalls

/-!
# What requests ask for

The query that a request sends is the conjunction of the parts that it is composed of, each of which
may be absent and then restricts nothing. What a query in the engine's text syntax means is left to
the engine and the same throughout.
-/

namespace FacetSearch

/-! ## Conjunctions -/

namespace Query

variable (meaning : TextQuery → FieldValues → Bool) (document : FieldValues)

@[simp] theorem matches_all : all.matches meaning document = true := by
  simp [all, Query.matches]

@[simp] theorem matches_and (a b : Query) :
    (a.and b).matches meaning document =
      (a.matches meaning document && b.matches meaning document) := by
  simp [Query.and, allOf, Query.matches, matchesAll, matchesAny]

theorem matchesAll_toList (clause : Option Query) :
    matchesAll meaning document clause.toList =
      clause.all fun clause ↦ clause.matches meaning document := by
  cases clause <;> simp [matchesAll]

end Query

section Parts

variable (meaning : TextQuery → FieldValues → Bool) (document : FieldValues)

/-- The conditions of a search query and of a filter, as far as there are any. -/
def SearchQuery.Accepts (query : SearchQuery) (idFilter : Option IdFilter) : Prop :=
  (∀ clause, query.query = some clause → clause.matches meaning document = true) ∧
    ∀ filter, idFilter = some filter → filter.toQuery.matches meaning document = true

namespace Listing

variable (listing : Listing)

/-- The conditions of both filters, as far as there are any: the query of the one matches, and the
field of the other has its value. -/
def FiltersAccept : Prop :=
  (∀ filter, listing.idFilter = some filter → filter.toQuery.matches meaning document = true) ∧
    ∀ filter, listing.termFilter = some filter → ∀ value, filter.value = some value →
      document filter.field = some (.str value)

/-- The text matches in the given fields, the filters accept, and no excluded flag is set; a flag
that is set holds the term `true`. -/
def Accepts : Prop :=
  (∀ text, listing.text = some text →
    meaning ⟨text, none, if listing.fields = [] then none else some listing.fields, none⟩
      document = true) ∧
    listing.FiltersAccept meaning document ∧
    ∀ field ∈ listing.excludedFields, document field ≠ some (.str "true")

/-- The class matches, the text matches in any field, and the filters accept. -/
def ClassAccepts (className : String) : Prop :=
  meaning ⟨className, none, some ["className"], none⟩ document = true ∧
    (∀ text, listing.text = some text → meaning ⟨text, none, none, none⟩ document = true) ∧
    listing.FiltersAccept meaning document

end Listing

end Parts

section Composition

variable {meaning : TextQuery → FieldValues → Bool} {document : FieldValues}

theorem matches_effectiveQuery (query : SearchQuery) (idFilter : Option IdFilter) :
    (Searcher.effectiveQuery query idFilter).matches meaning document = true ↔
      query.Accepts meaning document idFilter := by
  unfold Searcher.effectiveQuery SearchQuery.Accepts
  cases query.query <;> cases idFilter <;> simp

theorem matches_composeFilters (listing : Listing) :
    ((composeFilters listing.idFilter listing.termFilter).all fun clause ↦
      clause.matches meaning document) = true ↔ listing.FiltersAccept meaning document := by
  unfold composeFilters Listing.FiltersAccept
  cases listing.termFilter with
  | none => cases listing.idFilter <;> simp
  | some termFilter =>
    cases hvalue : termFilter.value <;> cases listing.idFilter <;>
      simp [TermFilter.toQuery?, hvalue]

/-- The condition of a listing holds if the text matches and the filters accept. -/
theorem matches_condition (listing : Listing) :
    (listing.condition.all fun clause ↦ clause.matches meaning document) = true ↔
      (∀ text, listing.text = some text →
        meaning ⟨text, none, if listing.fields = [] then none else some listing.fields, none⟩
          document = true) ∧ listing.FiltersAccept meaning document := by
  rw [← matches_composeFilters]
  unfold Listing.condition
  cases listing.text <;> cases composeFilters listing.idFilter listing.termFilter <;>
    simp [Query.matches, Query.matchesAll, Query.matchesAny]

theorem matches_flagged (field : String) :
    (Listing.flagged field).matches meaning document = (document field == some (.str "true")) := by
  unfold Listing.flagged
  rw [Query.matches_and, Query.matches_termIs, Query.matches]
  cases document field <;> simp

theorem matches_listing (listing : Listing) :
    listing.query.matches meaning document = true ↔ listing.Accepts meaning document := by
  have hquery : listing.query.matches meaning document =
      ((listing.condition.all fun clause ↦ clause.matches meaning document) &&
        !listing.excludedFields.any fun field ↦ document field == some (.str "true")) := by
    unfold Listing.query
    cases hexcluded : listing.excludedFields with
    | nil => cases listing.condition <;> simp
    | cons field rest =>
      simp [Query.matches, Query.matchesAll, Query.matchesAll_toList, Query.matchesAny_map,
        Query.matchesAny, matches_flagged]
  rw [hquery, Bool.and_eq_true, matches_condition, and_assoc]
  simp [Listing.Accepts]

theorem matches_classQuery (listing : Listing) (className : String) :
    (listing.classQuery className).matches meaning document = true ↔
      listing.ClassAccepts meaning document className := by
  unfold Listing.ClassAccepts
  rw [← matches_composeFilters]
  unfold Listing.classQuery Listing.ofClass
  cases listing.text <;> cases composeFilters listing.idFilter listing.termFilter <;>
    simp [Query.matches, Query.ofText, classNameField, and_assoc]

end Composition

/-! ## Requests -/

/-- The query of a call that searches or counts. -/
def Call.clause? : Call → Option Query
  | .search _ request => request.query
  | .count _ query => some query
  | _ => none

namespace Program

/-- The program makes one call, of that index, with a query that matches just the documents that are
accepted, whatever queries in the engine's text syntax mean. -/
def Asks {α : Type} (program : Program α) (index : String)
    (accepts : (TextQuery → FieldValues → Bool) → FieldValues → Prop) : Prop :=
  ∃ call clause, program.MakesOnly call ∧ call.index = index ∧ call.clause? = some clause ∧
    ∀ meaning document, clause.matches meaning document = true ↔ accepts meaning document

/-- As `Asks` if there is a plan; else the program refuses. -/
def AsksIfPlanned {α : Type} (plan : Except PropertyFault Plan) (program : Program α)
    (index : String) (accepts : (TextQuery → FieldValues → Bool) → FieldValues → Prop) : Prop :=
  match plan with
  | .ok _ => program.Asks index accepts
  | .error fault => program.Refuses (.property fault)

end Program

namespace Searcher

theorem search_asks {index : String} {request : SearchRequest} {clause : Query}
    {accepts : (TextQuery → FieldValues → Bool) → FieldValues → Prop}
    (hclause : request.query = some clause)
    (haccepts : ∀ meaning document,
      clause.matches meaning document = true ↔ accepts meaning document) :
    (search index request).Asks index accepts :=
  ⟨.search index request, clause, search_makesOnly index request, rfl, hclause, haccepts⟩

variable (searcher : Searcher) (index text className : String) (query : SearchQuery)
  (scope : Scope) (mandatory : List String) (properties : Properties)
  (nested : StringMap Properties) (idFilter : Option IdFilter) (listing : Listing)

theorem query_asks :
    (searcher.query index query scope mandatory properties idFilter).AsksIfPlanned
      (searcher.planner.plan properties) index fun meaning document ↦
        query.Accepts meaning document idFilter := by
  cases hplan : searcher.planner.plan properties with
  | error fault =>
    rw [searcher.query_of_error index query scope mandatory properties idFilter hplan]
    exact Program.refuses_fail _
  | ok plan =>
    rw [searcher.query_of_ok index query scope mandatory properties idFilter hplan]
    exact search_asks rfl fun _ _ ↦ matches_effectiveQuery query idFilter

theorem cover_asks :
    (searcher.cover index query properties idFilter).AsksIfPlanned
      (searcher.planner.plan properties) index fun meaning document ↦
        query.Accepts meaning document idFilter := by
  cases hplan : searcher.planner.plan properties with
  | error fault =>
    rw [searcher.cover_of_error index query properties idFilter hplan]
    exact Program.refuses_fail _
  | ok plan =>
    rw [searcher.cover_of_ok index query properties idFilter hplan]
    exact search_asks rfl fun _ _ ↦ matches_effectiveQuery query idFilter

theorem aggregate_asks :
    (searcher.aggregate index query properties nested idFilter).AsksIfPlanned
      (searcher.planner.planNested properties nested) index fun meaning document ↦
        query.Accepts meaning document idFilter := by
  unfold aggregate
  cases searcher.planner.planNested properties nested with
  | error fault => exact Program.refuses_fail _
  | ok plan => exact search_asks rfl fun _ _ ↦ matches_effectiveQuery query idFilter

/-- Both ways of counting ask for the same documents. -/
theorem count_asks :
    (searcher.count index text idFilter).Asks index fun meaning document ↦
      (searcher.compiler.compile text).Accepts meaning document idFilter := by
  unfold count
  dsimp only
  split
  · refine ⟨.count index _, _, ?_, rfl, rfl, fun _ _ ↦ matches_effectiveQuery _ idFilter⟩
    exact Program.makesOnly_request_bind (.count index _) fun count ↦
      .ok (SearchResults.ofCount count)
  · exact search_asks rfl fun _ _ ↦ matches_effectiveQuery _ idFilter

/-- Every entry point asks for just the documents that meet all the conditions it is given: none is
dropped, and one that is not given restricts nothing. -/
theorem requests_ask_conjunction :
    (searcher.query index query scope mandatory properties idFilter).AsksIfPlanned
        (searcher.planner.plan properties) index
          (fun meaning document ↦ query.Accepts meaning document idFilter) ∧
      (searcher.cover index query properties idFilter).AsksIfPlanned
        (searcher.planner.plan properties) index
          (fun meaning document ↦ query.Accepts meaning document idFilter) ∧
      (searcher.aggregate index query properties nested idFilter).AsksIfPlanned
        (searcher.planner.planNested properties nested) index
          (fun meaning document ↦ query.Accepts meaning document idFilter) ∧
      (searcher.find index text idFilter).Asks index
        (fun meaning document ↦
          (searcher.compiler.compile text).Accepts meaning document idFilter) ∧
      (searcher.count index text idFilter).Asks index
        (fun meaning document ↦
          (searcher.compiler.compile text).Accepts meaning document idFilter) ∧
      (documents index listing).Asks index
        (fun meaning document ↦ listing.Accepts meaning document) ∧
      (documentsByClassName index className listing).Asks index
        (fun meaning document ↦ listing.ClassAccepts meaning document className) := by
  refine ⟨?_, ?_, ?_, ?_, ?_, ?_, ?_⟩
  · exact searcher.query_asks index query scope mandatory properties idFilter
  · exact searcher.cover_asks index query properties idFilter
  · exact searcher.aggregate_asks index query properties nested idFilter
  · exact search_asks rfl fun _ _ ↦ matches_effectiveQuery _ idFilter
  · exact searcher.count_asks index text idFilter
  · exact search_asks rfl fun _ _ ↦ matches_listing listing
  · exact search_asks rfl fun _ _ ↦ matches_classQuery listing className

end Searcher

end FacetSearch
