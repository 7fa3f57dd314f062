import FacetSearch.Search.Searcher
import FacetSearch.Proofs.NestedPlans
import FacetSearch.Proofs.ProgramRun

/-!
# The calls that a search makes

A search makes one call, whatever the engine replies, unless its properties are at fault, and then
it makes none. A search with bucket fields asks for the plan of its properties, which stands once
more below the terms and ranges of those fields, and for the count of all documents.
-/

namespace FacetSearch

namespace Program

variable {α : Type}

/-- The program fails at once. -/
def Refuses (program : Program α) (error : Error) : Prop :=
  ∀ {σ : Type} (engine : Engine σ) (state : σ),
    program.run engine state = ⟨.error error, [], state⟩

/-- The program makes one call, whatever the reply. -/
def MakesOnly (program : Program α) (call : Call) : Prop :=
  ∀ {σ : Type} (engine : Engine σ) (state : σ), (program.run engine state).calls = [call]

theorem refuses_fail (error : Error) : (fail error : Program α).Refuses error := fun _ _ ↦ rfl

theorem makesOnly_request_bind (call : Call) (f : call.Reply → Except Error α) :
    ((request call).bind fun reply ↦ done (f reply)).MakesOnly call := by
  intro σ engine state
  rw [run_bind, run_request]
  cases (engine.reply call state).1 <;> rfl

end Program

namespace Searcher

theorem search_makesOnly (index : String) (request : SearchRequest) :
    (search index request).MakesOnly (.search index request) :=
  Program.makesOnly_request_bind (.search index request) SearchResults.ofResponse

/-! ## Aggregations with bucket fields -/

variable (searcher : Searcher)

theorem bucketAggregations_of_error {properties : Properties} {fault : PropertyFault}
    (hplan : searcher.planner.plan properties = .error fault) (fields : List String) :
    searcher.bucketAggregations fields properties = .error (.property fault) := by
  simp only [bucketAggregations, Planner.planNested_same, hplan]
  rfl

theorem bucketAggregations_of_ok {properties : Properties} {plan : Plan}
    (hplan : searcher.planner.plan properties = .ok plan) (fields : List String) :
    searcher.bucketAggregations fields properties =
      .ok (withTotalCount (plan.carrying fields plan.definitions).definitions) := by
  simp only [bucketAggregations, Planner.planNested_same, hplan]
  rfl

end Searcher

/-- The aggregations of a request are those of a plan under their names, of which those that ask for
the terms or ranges of a field that is listed carry the plan itself, and the count of all documents.
What is carried carries nothing. -/
structure CarriesPlan (fields : List String) (plan : Plan)
    (aggregations : List (String × Aggregation)) : Prop where
  ascending : Entries.Ascending aggregations
  total : Entries.get? aggregations "_all" = some .everything
  other : ∀ name, name ≠ "_all" → Entries.get? aggregations name =
    (plan.last? name).map (Aggregation.carrying fields plan.definitions)
  carried : ∀ name, Entries.get? plan.definitions name = plan.last? name
  carriedAscending : Entries.Ascending plan.definitions
  carriesNothing : ∀ entry ∈ plan.definitions, entry.2.nested = []

/-- The plan asks for the terms or ranges of the field. -/
def Plan.Targets (plan : Plan) (field : String) : Prop :=
  ∃ aggregation ∈ plan, aggregation.definition.bucketField? = some field

theorem Plan.carrying_congr {plan : Plan} {fields others : List String}
    (h : ∀ field, plan.Targets field → (field ∈ fields ↔ field ∈ others))
    (definitions : List (String × Aggregation)) :
    plan.carrying fields definitions = plan.carrying others definitions := by
  apply List.map_congr_left
  intro aggregation hmem
  have hsame : aggregation.definition.bucketField?.any fields.contains =
      aggregation.definition.bucketField?.any others.contains := by
    cases hfield : aggregation.definition.bucketField? with
    | none => rfl
    | some field =>
      have hiff := h field ⟨aggregation, hmem, hfield⟩
      simpa using hiff
  rw [Aggregation.carrying, Aggregation.carrying, hsame]

namespace Searcher

variable (searcher : Searcher)

theorem carriesPlan_withTotalCount {properties : Properties} {plan : Plan}
    (hplan : searcher.planner.plan properties = .ok plan) (fields : List String) :
    CarriesPlan fields plan
      (withTotalCount (plan.carrying fields plan.definitions).definitions) where
  ascending := (Plan.definitions_ascending _).insert _ _
  total := (Entries.get?_insert _ _ _ _).trans (if_pos rfl)
  other := by
    intro name hname
    have hother := Entries.get?_insert (plan.carrying fields plan.definitions).definitions
      totalCountName .everything name
    have hdifferent : totalCountName ≠ name := hname.symm
    rw [if_neg hdifferent, Plan.get?_definitions, Plan.last?_carrying] at hother
    exact hother
  carried := plan.get?_definitions
  carriedAscending := plan.definitions_ascending
  carriesNothing := by
    intro entry hentry
    obtain ⟨aggregation, hmem, rfl⟩ := List.mem_map.mp (Entries.mem_sorted hentry)
    exact searcher.planner.nested_of_mem_plan properties hplan hmem

variable (index : String) (query : SearchQuery) (scope : Scope) (mandatory : List String)
  (properties : Properties) (idFilter : Option IdFilter)

theorem query_of_error {fault : PropertyFault}
    (hplan : searcher.planner.plan properties = .error fault) :
    searcher.query index query scope mandatory properties idFilter = .fail (.property fault) := by
  rw [Searcher.query, searcher.bucketAggregations_of_error hplan]
  rfl

theorem cover_of_error {fault : PropertyFault}
    (hplan : searcher.planner.plan properties = .error fault) :
    searcher.cover index query properties idFilter = .fail (.property fault) := by
  rw [cover, searcher.bucketAggregations_of_error hplan]
  rfl

theorem query_of_ok {plan : Plan} (hplan : searcher.planner.plan properties = .ok plan) :
    searcher.query index query scope mandatory properties idFilter =
      search index (searchRequest query scope mandatory (withTotalCount
        (plan.carrying query.bucketFields plan.definitions).definitions) idFilter) := by
  rw [Searcher.query, searcher.bucketAggregations_of_ok hplan]
  rfl

theorem cover_of_ok {plan : Plan} (hplan : searcher.planner.plan properties = .ok plan) :
    searcher.cover index query properties idFilter =
      search index (coverageRequest (effectiveQuery query idFilter) (withTotalCount
        (plan.carrying query.bucketFields plan.definitions).definitions)) := by
  rw [cover, searcher.bucketAggregations_of_ok hplan]
  rfl

/-- A fault of the properties costs no call. Otherwise there is one search, whose aggregations carry
the plan of the properties below the bucket fields, and bucket fields count only as the set of those
whose terms or ranges are asked for. -/
theorem query_cover_aggregations :
    (∀ fault, searcher.planner.plan properties = .error fault →
      (Error.property fault).kind = .configuration ∧
      (searcher.query index query scope mandatory properties idFilter).Refuses (.property fault) ∧
      (searcher.cover index query properties idFilter).Refuses (.property fault)) ∧
    ∀ plan, searcher.planner.plan properties = .ok plan →
      (∃ request, CarriesPlan query.bucketFields plan request.aggregations ∧
        (searcher.query index query scope mandatory properties idFilter).MakesOnly
          (.search index request)) ∧
      (∃ request, CarriesPlan query.bucketFields plan request.aggregations ∧
        (searcher.cover index query properties idFilter).MakesOnly (.search index request)) ∧
      ∀ fields, (∀ field, plan.Targets field → (field ∈ fields ↔ field ∈ query.bucketFields)) →
        searcher.query index { query with bucketFields := fields } scope mandatory properties
            idFilter = searcher.query index query scope mandatory properties idFilter ∧
          searcher.cover index { query with bucketFields := fields } properties idFilter =
            searcher.cover index query properties idFilter := by
  constructor
  · intro fault hplan
    rw [searcher.query_of_error index query scope mandatory properties idFilter hplan,
      searcher.cover_of_error index query properties idFilter hplan]
    exact ⟨rfl, Program.refuses_fail _, Program.refuses_fail _⟩
  · intro plan hplan
    have hquery (query : SearchQuery) :=
      searcher.query_of_ok index query scope mandatory properties idFilter hplan
    have hcover (query : SearchQuery) :=
      searcher.cover_of_ok index query properties idFilter hplan
    have hcarries := searcher.carriesPlan_withTotalCount hplan query.bucketFields
    simp only [hquery, hcover]
    refine ⟨⟨_, hcarries, search_makesOnly _ _⟩, ⟨_, hcarries, search_makesOnly _ _⟩, ?_⟩
    intro fields hfields
    simp only [Plan.carrying_congr hfields plan.definitions]
    exact ⟨rfl, rfl⟩

theorem query_cover_aggregations_of_two_fields :
    let searcher : Searcher := ⟨⟨[], -1⟩, .standard⟩
    let properties : Properties := .ofList [("age.type", "stats"), ("sex", "")]
    let query : SearchQuery := { SearchQuery.empty with bucketFields := ["sex", "age", "sex"] }
    ∃ plan request, searcher.planner.plan properties = .ok plan ∧ plan.names = ["age", "sex"] ∧
      CarriesPlan ["sex", "age", "sex"] plan request.aggregations ∧
      (searcher.query "docs" query .detail [] properties none).MakesOnly
        (.search "docs" request) := by
  intro searcher properties query
  have hnames : (searcher.planner.plan properties).map Plan.names = .ok ["age", "sex"] := by
    decide
  cases hplan : searcher.planner.plan properties with
  | error fault =>
    rw [hplan] at hnames
    cases hnames
  | ok plan =>
    rw [hplan] at hnames
    have hplanned := (searcher.query_cover_aggregations "docs" query .detail [] properties none).2
    obtain ⟨request, hcarries, honly⟩ := (hplanned plan hplan).1
    exact ⟨plan, request, rfl, Except.ok.inj hnames, hcarries, honly⟩

end Searcher

end FacetSearch
