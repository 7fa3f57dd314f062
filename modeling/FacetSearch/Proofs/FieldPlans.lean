import FacetSearch.Proofs.NestedPlans

/-!
# A plan with the plans of fields below it

Property maps may be given for fields, and their plans go below the terms and ranges of those
fields. A plan with others below it exists exactly when the map above and every map of a field have
plans, also one of a field that nothing asks for. It is then the plan of the map above but for what
stands below. `Planner.planNested_extends` says so, and that the order in which the maps of fields
are gone through tells at most in which fault is reported first.
-/

namespace FacetSearch

/-- The entries are a plan as a request has it, with the last of the definitions of each name. -/
structure Plan.Requested (plan : Plan) (entries : List (String × Aggregation)) : Prop where
  ascending : Entries.Ascending entries
  last : ∀ name, Entries.get? entries name = plan.last? name

theorem Plan.requested_definitions (plan : Plan) : plan.Requested plan.definitions :=
  ⟨plan.definitions_ascending, plan.get?_definitions⟩

namespace Planner

variable (planner : Planner) (properties : Properties)

/-- The plan with those of the maps of fields below it, which are gone through as they are
listed. -/
def planListed (listed : List (String × Properties)) : Except PropertyFault Plan := do
  let plans ← planner.planFields listed
  planner.planWith (fun field ↦ Entries.get? plans field) properties

/-- The aggregation is one that stands alone with the plan of its field below it, if it has buckets
and there is a property map of the field. What is below it has nothing below. -/
structure Extends (nested : StringMap Properties) (alone aggregation : NamedAggregation) :
    Prop where
  name : aggregation.name = alone.name
  field : aggregation.field = alone.field
  kind : aggregation.kind = alone.kind
  target : alone.definition.field? = some alone.field
  own : { aggregation.definition with nested := [] } = alone.definition
  stats : alone.kind = .stats → aggregation.definition.nested = []
  other : nested.get? alone.field = none → aggregation.definition.nested = []
  below : alone.kind ≠ .stats → ∀ others, nested.get? alone.field = some others →
    ∃ plan, planner.plan others = .ok plan ∧ plan.Requested aggregation.definition.nested
  bare : ∀ entry ∈ aggregation.definition.nested, entry.2.nested = []

/-! ## When there is a plan, and which -/

/-- The property map has no plan. -/
def Unplanned : Prop := ∃ fault, planner.plan properties = .error fault

theorem plan_settles_entries :
    Settles (planner.plan properties) (planner.Unplanned properties)
      (planner.entries properties) :=
  (planner.plan_settles properties).congr (planner.plan_settles properties).error_iff.symm

theorem planFields_settles (listed : List (String × Properties)) :
    Settles (planner.planFields listed) (∃ entry ∈ listed, planner.Unplanned entry.2)
      (Entries.mapValues planner.entries listed) := by
  induction listed with
  | nil => exact (Settles.ok []).congr (by simp)
  | cons entry rest ih =>
    refine Settles.congr (Settles.bind (planner.plan_settles_entries entry.2) fun _ ↦
      Settles.bind ih fun _ ↦ .ok _) ?_
    simp

/-- Plans of fields that are listed are put below those that the map stands for. -/
theorem planListed_settles (listed : List (String × Properties)) :
    Settles (planner.planListed properties listed)
      ((∃ entry ∈ listed, planner.Unplanned entry.2) ∨ planner.Unplanned properties)
      ((planner.entries properties).map
        (attach fun field ↦ (Entries.get? listed field).map planner.entries)) := by
  refine Settles.bind (planner.planFields_settles listed) fun _ ↦ ?_
  rw [planWith_eq_map]
  simp only [Entries.get?_mapValues]
  exact (planner.plan_settles_entries properties).map _

/-- Only the maps of the fields count, not where they are listed. -/
theorem planListed_toOption_eq_of_perm {listed : List (String × Properties)}
    {nested : StringMap Properties} (hperm : listed.Perm nested.entries) :
    (planner.planListed properties listed).toOption =
      (planner.planNested properties nested).toOption := by
  have hlisted := planner.planListed_settles properties listed
  simp only [nested.ascending.get?_eq_of_perm hperm, hperm.mem_iff] at hlisted
  exact hlisted.toOption_eq (planner.planListed_settles properties nested.entries)

/-! ## What stands below -/

/-- What is put below an aggregation. -/
def belowOf (plans : NestedPlans) (aggregation : NamedAggregation) : List (String × Aggregation) :=
  if aggregation.kind = .stats then []
  else ((plans aggregation.field).map Plan.definitions).getD []

theorem ascending_belowOf (plans : NestedPlans) (aggregation : NamedAggregation) :
    Entries.Ascending (belowOf plans aggregation) := by
  unfold belowOf
  split
  · exact Entries.ascending_nil
  · cases plans aggregation.field with
    | none => exact Entries.ascending_nil
    | some plan => exact plan.definitions_ascending

theorem attach_eq_belowOf {plans : NestedPlans} {aggregation : NamedAggregation}
    (hbare : aggregation.definition.nested = []) :
    attach plans aggregation =
      { aggregation with definition :=
        { aggregation.definition with nested := belowOf plans aggregation } } := by
  have hattached := withNested_eq hbare (ascending_belowOf plans aggregation)
  obtain ⟨name, field, kind, terms, stats, range, everything, nested⟩ := aggregation
  cases kind with
  | stats =>
    cases hbare
    rfl
  | terms | range =>
    rw [← hattached]
    rfl

variable {planner properties}

/-- Where the maps of the fields have plans, their aggregations are put below those of the
fields. -/
theorem extends_attach {alone : Plan} (halone : planner.plan properties = .ok alone)
    {nested : StringMap Properties}
    (hnested : ∀ field others, nested.get? field = some others → ¬planner.Unplanned others)
    {aggregation : NamedAggregation} (hmem : aggregation ∈ alone) :
    planner.Extends nested aggregation
      (attach (fun field ↦ (nested.get? field).map planner.entries) aggregation) := by
  have hbare := planner.nested_of_mem_plan properties halone hmem
  rw [attach_eq_belowOf hbare]
  have hplanned (others : Properties) (hothers : nested.get? aggregation.field = some others) :
      planner.plan others = .ok (planner.entries others) :=
    (planner.plan_settles_entries others).ok_of (hnested _ others hothers)
  refine ⟨rfl, rfl, rfl, ?_, ?_, ?_, ?_, ?_, ?_⟩
  · obtain ⟨root, hdefinition⟩ := planner.definition_of_mem_plan properties halone hmem
    rw [hdefinition, field?_aggregate]
  · -- An aggregation is a recursive record, so it is taken apart for this.
    obtain ⟨name, field, kind, terms, stats, range, everything, below⟩ := aggregation
    cases hbare
    rfl
  · intro hstats
    exact if_pos hstats
  · intro hother
    simp [belowOf, hother]
  · intro hkind others hothers
    refine ⟨planner.entries others, hplanned others hothers, ?_⟩
    have hbelow : belowOf (fun field ↦ (nested.get? field).map planner.entries) aggregation =
        (planner.entries others).definitions := by
      simp [belowOf, hkind, hothers]
    rw [hbelow]
    exact Plan.requested_definitions _
  · intro entry hentry
    simp only [belowOf] at hentry
    split at hentry
    · cases hentry
    · cases hothers : nested.get? aggregation.field with
      | none =>
        rw [hothers] at hentry
        cases hentry
      | some others =>
        rw [hothers] at hentry
        obtain ⟨below, hbelow, rfl⟩ := List.mem_map.mp (Entries.mem_sorted hentry)
        exact planner.nested_of_mem_plan others (hplanned others hothers) hbelow

variable (planner properties)

/-- A plan with the plans of fields below it. It fails exactly when a map has no plan, be it that of
a field which nothing asks for; otherwise each aggregation is the one that stands alone with the
plan of its field below it, in whatever order the fields are gone through. -/
theorem planNested_extends (nested : StringMap Properties) :
    ((∃ fault, planner.planNested properties nested = .error fault ∧
        (Error.property fault).kind = .configuration) ↔
      planner.Unplanned properties ∨
        ∃ field others, nested.get? field = some others ∧ planner.Unplanned others) ∧
    (∀ plan, planner.planNested properties nested = .ok plan →
      ∃ alone, planner.plan properties = .ok alone ∧
        List.Forall₂ (planner.Extends nested) alone plan) ∧
    (∀ listed : List (String × Properties), listed.Perm nested.entries →
      (planner.planListed properties listed).toOption =
        (planner.planNested properties nested).toOption) ∧
    planner.planNested properties ∅ = planner.plan properties := by
  have hsettles : Settles (planner.planNested properties nested) _ _ :=
    planner.planListed_settles properties nested.entries
  have hfields : (∃ entry ∈ nested.entries, planner.Unplanned entry.2) ↔
      ∃ field others, nested.get? field = some others ∧ planner.Unplanned others := by
    simp only [Prod.exists, StringMap.get?, Entries.get?_eq_some_iff nested.ascending]
  rw [hfields] at hsettles
  refine ⟨?_, ?_, fun listed ↦ planner.planListed_toOption_eq_of_perm properties, rfl⟩
  · rw [or_comm, ← hsettles.error_iff]
    exact exists_congr fun fault ↦ and_iff_left rfl
  · intro plan hplan
    -- Had a map no plan, then there would be none of all together.
    have hsound := mt hsettles.error_iff.mpr (by simp [hplan])
    obtain ⟨hnested, halone⟩ := not_or.mp hsound
    have hentries := (planner.plan_settles_entries properties).ok_of halone
    have hattached := Except.ok.inj (hplan.symm.trans (hsettles.ok_of hsound))
    refine ⟨planner.entries properties, hentries, ?_⟩
    rw [hattached, List.forall₂_map_right_iff, List.forall₂_same]
    intro aggregation hmem
    refine extends_attach hentries ?_ hmem
    exact fun field others hothers hfails ↦ hnested ⟨field, others, hothers, hfails⟩

/-- The field `age` has no buckets, and `site` is not asked for. -/
theorem planNested_extends_of_three_fields :
    let planner : Planner := ⟨[], -1⟩
    let properties : Properties := .ofList [("age.type", "stats"), ("sex", "")]
    let nested : StringMap Properties := .ofList [("age", .ofList [("sex", "")]),
      ("sex", .ofList [("age.type", "stats")]), ("site", .ofList [("id", "")])]
    ∃ alone plan, planner.planNested properties nested = .ok plan ∧
      planner.plan properties = .ok alone ∧ plan.names = ["age", "sex"] ∧
      List.Forall₂ (planner.Extends nested) alone plan ∧
      (planner.planListed properties nested.entries.reverse).toOption = some plan := by
  intro planner properties nested
  have hnames : (planner.planNested properties nested).map Plan.names = .ok ["age", "sex"] := by
    decide
  obtain ⟨-, hextends, hlisted, -⟩ := planner.planNested_extends properties nested
  cases hplan : planner.planNested properties nested with
  | error fault =>
    rw [hplan] at hnames
    cases hnames
  | ok plan =>
    rw [hplan] at hnames
    obtain ⟨alone, halone, hbelow⟩ := hextends plan hplan
    have hreversed := hlisted nested.entries.reverse (List.reverse_perm _)
    rw [hplan] at hreversed
    exact ⟨alone, plan, rfl, halone, Except.ok.inj hnames, hbelow, hreversed⟩

end Planner

end FacetSearch
