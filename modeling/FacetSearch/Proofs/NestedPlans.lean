import FacetSearch.Proofs.PropertyGrammar
import FacetSearch.Proofs.StringMapOrder

/-!
# Plans below plans

Where a plan is put below the aggregations of some fields, the plan above is the one that the
properties stand for by themselves, but for what its terms and ranges of those fields carry. What
they carry carries nothing.
-/

namespace FacetSearch

/-- The field whose terms or ranges are asked for. -/
def Aggregation.bucketField? (aggregation : Aggregation) : Option String :=
  aggregation.terms.map TermsAggregation.field <|> aggregation.range.map RangeAggregation.field

/-- The aggregation with others below it if it asks for the terms or ranges of one of the fields,
and else with none. -/
def Aggregation.carrying (fields : List String) (others : List (String × Aggregation))
    (aggregation : Aggregation) : Aggregation :=
  { aggregation with
    nested := if aggregation.bucketField?.any fields.contains then others else [] }

/-- The last definition of that name. -/
def Plan.last? (plan : Plan) (name : String) : Option Aggregation :=
  (List.getLast? (plan.filter fun aggregation ↦ aggregation.name = name)).map
    NamedAggregation.definition

/-- The plan in which terms and ranges of the fields carry others. -/
def Plan.carrying (fields : List String) (others : List (String × Aggregation)) (plan : Plan) :
    Plan :=
  plan.map fun aggregation ↦
    { aggregation with definition := aggregation.definition.carrying fields others }

namespace Plan

variable {plan : Plan}

theorem definitions_ascending (plan : Plan) : Entries.Ascending plan.definitions :=
  Entries.ascending_sorted _

/-- Of the definitions with one name, the last counts. -/
theorem get?_definitions (plan : Plan) (name : String) :
    Entries.get? plan.definitions name = plan.last? name := by
  rw [definitions, Entries.get?_sorted, List.filter_map, List.getLast?_map, last?, Option.map_map]
  rfl

theorem last?_carrying (fields : List String) (others : List (String × Aggregation)) (plan : Plan)
    (name : String) :
    (plan.carrying fields others).last? name =
      (plan.last? name).map (Aggregation.carrying fields others) := by
  rw [last?, carrying, List.filter_map, List.getLast?_map, last?, Option.map_map, Option.map_map]
  rfl

end Plan

/-! ## What is put below an aggregation -/

namespace Planner

variable (planner : Planner) (nested : NestedPlans) (properties : Properties)

/-- The aggregation with the plan of its field below it, if it has buckets. -/
def attach (aggregation : NamedAggregation) : NamedAggregation :=
  { aggregation with
    definition := match aggregation.kind with
      | .stats => aggregation.definition
      | .terms | .range => aggregation.definition.withNested
          (((nested aggregation.field).map Plan.definitions).getD []) }

theorem planType_eq_map (root : String) (pair : String × String) :
    planner.planType nested properties root pair =
      List.map (attach nested) <$> planner.planType (fun _ ↦ none) properties root pair := by
  have hdefinition (field : String) (intervals : List RangeInterval) (kind : AggregationKind) :
      planner.definition nested field intervals kind =
        (attach nested ⟨root, field, kind,
          planner.definition (fun _ ↦ none) field intervals kind⟩).definition := by
    cases kind <;> rfl
  simp only [planType, map_bind, map_pure, List.map_map, hdefinition]
  rfl

theorem planEach_eq_map {ι : Type} {plan other : ι → Except PropertyFault Plan}
    {f : NamedAggregation → NamedAggregation} (h : ∀ item, plan item = List.map f <$> other item)
    (items : List ι) : planEach plan items = List.map f <$> planEach other items := by
  induction items with
  | nil => rfl
  | cons item rest ih =>
    simp only [planEach, h, ih, map_bind, bind_map_left, map_pure, List.map_append]

/-- A plan with others below it is the plan alone with something put below some aggregations. -/
theorem planWith_eq_map :
    planner.planWith nested properties = List.map (attach nested) <$> planner.plan properties := by
  apply planEach_eq_map
  intro root
  rw [planRoot, planRoot, map_bind]
  congr 1
  funext aliases
  exact planEach_eq_map (planner.planType_eq_map nested properties root) _

/-! ## What aggregations of a plan carry -/

/-- What the property map stands for if no root is at fault. -/
noncomputable def entries : Plan := properties.roots.flatMap (planner.rootEntries properties)

variable {planner properties} in
theorem entries_of_plan {plan : Plan} (hplan : planner.plan properties = .ok plan) :
    planner.entries properties = plan := by
  have hsettles := planner.plan_settles properties
  have hsound : ¬∃ root ∈ properties.roots, properties.Faulty root := by
    intro hfaulty
    obtain ⟨fault, hfault⟩ := hsettles.error_of hfaulty
    rw [hplan] at hfault
    cases hfault
  exact Except.ok.inj ((hsettles.ok_of hsound).symm.trans hplan)

theorem field?_aggregate (root field : String) (kind : AggregationKind) :
    (planner.aggregate properties root field kind).field? = some field := by
  cases kind <;> rfl

theorem definition_of_mem_plan {plan : Plan} (hplan : planner.plan properties = .ok plan)
    {aggregation : NamedAggregation} (hmem : aggregation ∈ plan) :
    ∃ root, aggregation.definition =
      planner.aggregate properties root aggregation.field aggregation.kind := by
  rw [← entries_of_plan hplan] at hmem
  obtain ⟨root, -, hroot⟩ := List.mem_flatMap.mp hmem
  obtain ⟨pair, -, hpair⟩ := List.mem_flatMap.mp hroot
  refine ⟨root, ?_⟩
  simp only [typeEntries] at hpair
  split at hpair
  · obtain ⟨locale, -, rfl⟩ := List.mem_map.mp hpair
    rfl
  · cases List.mem_singleton.mp hpair
    rfl

/-- Nothing is below an aggregation of a plan that stands alone. -/
theorem nested_of_mem_plan {plan : Plan} (hplan : planner.plan properties = .ok plan)
    {aggregation : NamedAggregation} (hmem : aggregation ∈ plan) :
    aggregation.definition.nested = [] := by
  obtain ⟨root, hdefinition⟩ := planner.definition_of_mem_plan properties hplan hmem
  rw [hdefinition]
  cases aggregation.kind <;> rfl

theorem withNested_eq {aggregation : Aggregation} (hbare : aggregation.nested = [])
    {others : List (String × Aggregation)} (hothers : Entries.Ascending others) :
    aggregation.withNested others = { aggregation with nested := others } := by
  rw [Aggregation.withNested, hbare]
  congr 1
  exact hothers.sorted_eq

/-- Where one plan is put below some fields, it is carried by their terms and ranges. -/
theorem attach_eq {plan : Plan} (hplan : planner.plan properties = .ok plan)
    {aggregation : NamedAggregation} (hmem : aggregation ∈ plan) (fields : List String) :
    attach (fun field ↦ if field ∈ fields then some plan else none) aggregation =
      { aggregation with
        definition := aggregation.definition.carrying fields plan.definitions } := by
  have hbare := planner.nested_of_mem_plan properties hplan hmem
  obtain ⟨root, hdefinition⟩ := planner.definition_of_mem_plan properties hplan hmem
  obtain ⟨name, field, kind, definition⟩ := aggregation
  simp only at hbare hdefinition
  have hcarried : (((if field ∈ fields then some plan else none).map Plan.definitions).getD []) =
      if fields.contains field then plan.definitions else [] := by
    by_cases hfield : field ∈ fields <;> simp [hfield]
  have hascending : Entries.Ascending
      (if fields.contains field then plan.definitions else []) := by
    split
    · exact plan.definitions_ascending
    · exact Entries.ascending_nil
  cases kind with
  | stats =>
    subst hdefinition
    rfl
  | terms | range =>
    simp only [attach, hcarried]
    rw [withNested_eq hbare hascending, hdefinition]
    rfl

/-! ## One property map for all fields -/

/-- A map that stands for a plan stands for it under every field. -/
theorem planFields_eq {plan : Plan} (hplan : planner.plan properties = .ok plan)
    {entries : List (String × Properties)} (hsame : ∀ entry ∈ entries, entry.2 = properties) :
    planner.planFields entries = .ok (entries.map fun entry ↦ (entry.1, plan)) := by
  induction entries with
  | nil => rfl
  | cons entry rest ih =>
    obtain ⟨hentry, hrest⟩ := List.forall_mem_cons.mp hsame
    rw [planFields, hentry, hplan, ih hrest]
    rfl

theorem planFields_eq_error {fault : PropertyFault}
    (hplan : planner.plan properties = .error fault) {entries : List (String × Properties)}
    (hsame : ∀ entry ∈ entries, entry.2 = properties) :
    planner.planFields entries = .ok [] ∨ planner.planFields entries = .error fault := by
  cases entries with
  | nil => exact .inl rfl
  | cons entry rest =>
    have hentry : entry.2 = properties := hsame entry List.mem_cons_self
    rw [planFields, hentry, hplan]
    exact .inr rfl

/-- A value that is the same for all fields is found under each of them. -/
theorem get?_sameFor (fields : List String) (field : String) (properties : Properties)
    (plan : Plan) :
    Entries.get? ((StringMap.ofList (fields.map fun field ↦ (field, properties))).entries.map
      fun entry ↦ (entry.1, plan)) field = if field ∈ fields then some plan else none := by
  have hkeys : field ∈ Entries.keys
      (Entries.sorted (fields.map fun field ↦ (field, properties))) ↔ field ∈ fields := by
    rw [Entries.mem_keys_sorted]
    simp [Entries.keys]
  change Entries.get? (Entries.mapValues (fun _ ↦ plan) (Entries.sorted _)) field = _
  rw [Entries.get?_mapValues]
  by_cases hfield : field ∈ fields
  · obtain ⟨value, hvalue⟩ := Option.ne_none_iff_exists'.mp
      (mt Entries.get?_eq_none_iff.mp (not_not.mpr (hkeys.mpr hfield)))
    rw [if_pos hfield, hvalue, Option.map_some]
  · rw [if_neg hfield, Entries.get?_eq_none_iff.mpr (mt hkeys.mp hfield), Option.map_none]

/-- The plan of a property map with itself below the aggregations of some fields. -/
theorem planNested_same (fields : List String) :
    planner.planNested properties (.ofList (fields.map fun field ↦ (field, properties))) =
      (fun plan ↦ Plan.carrying fields plan.definitions plan) <$> planner.plan properties := by
  have hsame : ∀ entry ∈ (StringMap.ofList (fields.map fun field ↦ (field, properties))).entries,
      entry.2 = properties := by
    intro entry hentry
    obtain ⟨field, -, rfl⟩ := List.mem_map.mp (Entries.mem_sorted hentry)
    rfl
  cases hplan : planner.plan properties with
  | error fault =>
    -- Without fields, the fault is found when the map itself is planned.
    simp only [planNested, planWith_eq_map, hplan]
    rcases planner.planFields_eq_error properties hplan hsame with hfields | hfields <;>
      rw [hfields] <;> rfl
  | ok plan =>
    have hfound (field : String) := get?_sameFor fields field properties plan
    rw [planNested, planner.planFields_eq properties hplan hsame]
    change planner.planWith (fun field ↦ Entries.get? _ field) properties = _
    simp only [hfound]
    rw [planWith_eq_map, hplan]
    change Except.ok _ = Except.ok _
    congr 1
    apply List.map_congr_left
    intro aggregation hmem
    exact planner.attach_eq properties hplan hmem fields

end Planner

end FacetSearch
