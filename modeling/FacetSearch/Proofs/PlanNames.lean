import FacetSearch.Proofs.NestedPlans

/-!
# Names of a plan

A plan is a list, but a request has one definition under each name. Names come from roots and
aliases, with a locale behind them where the root is localized, so different aggregations may be
asked for under one name, and then all but the last are missing from the request.
`Planner.definitions_complete_iff` says when none is: the aggregations of every name read one field
and are of one kind.
-/

namespace FacetSearch.Planner

variable (planner : Planner) (properties : Properties)

/-- The name that is given to a root; a blank one is none. -/
def givenName (root otherName : String) : String := if otherName = "" then root else otherName

/-- The properties ask for an aggregation of that field and kind under that name. -/
inductive Asks : (name field : String) → AggregationKind → Prop
  | plain {root token otherName : String} (hroot : properties.Declares root)
      (hplain : ¬properties.Localized root)
      (htype : (token, otherName) ∈
        (properties.typeTokens root).zip (properties.aliasTokens root)) :
      Asks (givenName root otherName) root (properties.kindOf root token)
  | localized {root token otherName locale : String} (hroot : properties.Declares root)
      (hlocalized : properties.Localized root)
      (htype : (token, otherName) ∈
        (properties.typeTokens root).zip (properties.aliasTokens root))
      (hlocale : locale ∈ (if planner.locales = [] then ["en"] else planner.locales) ++ ["und"]) :
      Asks (givenName root otherName ++ "." ++ locale) (root ++ "." ++ locale) .terms

/-! ## The aggregations that are asked for -/

theorem mem_typeEntries_iff {root token otherName : String} {aggregation : NamedAggregation} :
    aggregation ∈ planner.typeEntries properties root token otherName ↔
      (¬properties.Localized root ∧ aggregation =
        ⟨givenName root otherName, root, properties.kindOf root token,
          planner.aggregate properties root root (properties.kindOf root token)⟩) ∨
      (properties.Localized root ∧
        ∃ locale ∈ (if planner.locales = [] then ["en"] else planner.locales) ++ ["und"],
          aggregation = ⟨givenName root otherName ++ "." ++ locale, root ++ "." ++ locale, .terms,
            planner.aggregate properties (root ++ "." ++ locale) (root ++ "." ++ locale)
              .terms⟩) := by
  unfold typeEntries
  by_cases hlocalized : properties.Localized root
  · have hkind : properties.kindOf root token = .terms := if_pos hlocalized
    simp only [hlocalized, if_true, hkind, List.mem_map, not_true, false_and, false_or, true_and]
    exact exists_congr fun locale ↦ and_congr_right fun _ ↦ eq_comm
  · simp only [hlocalized, if_false, List.mem_singleton, not_false_iff, true_and, false_and,
      or_false]
    rfl

variable {planner properties} in
/-- An aggregation of a plan is determined by its name, its field and its kind. -/
theorem mem_plan_iff {plan : Plan} (hplan : planner.plan properties = .ok plan)
    {aggregation : NamedAggregation} :
    aggregation ∈ plan ↔
      planner.Asks properties aggregation.name aggregation.field aggregation.kind ∧
        aggregation.definition = planner.aggregate properties aggregation.field aggregation.field
          aggregation.kind := by
  rw [← entries_of_plan hplan]
  simp only [entries, rootEntries, List.mem_flatMap, Properties.mem_roots_iff, Prod.exists,
    mem_typeEntries_iff]
  constructor
  · rintro ⟨root, hroot, token, otherName, htype,
      ⟨hplain, rfl⟩ | ⟨hlocalized, locale, hlocale, rfl⟩⟩
    · exact ⟨.plain hroot hplain htype, rfl⟩
    · exact ⟨.localized hroot hlocalized htype hlocale, rfl⟩
  · obtain ⟨name, field, kind, definition⟩ := aggregation
    rintro ⟨hasks, hdefinition⟩
    simp only at hasks hdefinition
    subst hdefinition
    cases hasks with
    | plain hroot hplain htype =>
      exact ⟨_, hroot, _, _, htype, .inl ⟨hplain, rfl⟩⟩
    | localized hroot hlocalized htype hlocale =>
      exact ⟨_, hroot, _, _, htype, .inr ⟨hlocalized, _, hlocale, rfl⟩⟩

variable {planner properties} in
theorem mem_plan_of_asks {plan : Plan} (hplan : planner.plan properties = .ok plan)
    {name field : String} {kind : AggregationKind}
    (hasks : planner.Asks properties name field kind) :
    ⟨name, field, kind, planner.aggregate properties field field kind⟩ ∈ plan :=
  (mem_plan_iff hplan).mpr ⟨hasks, rfl⟩

/-- What is computed tells which field is read, and as what kind. -/
theorem aggregate_eq_iff {field other : String} {kind otherKind : AggregationKind} :
    planner.aggregate properties field field kind =
        planner.aggregate properties other other otherKind ↔ field = other ∧ kind = otherKind := by
  constructor
  · intro hsame
    have hfields := congrArg Aggregation.field? hsame
    rw [field?_aggregate, field?_aggregate] at hfields
    refine ⟨Option.some.inj hfields, ?_⟩
    cases kind <;> cases otherKind <;> first | rfl | cases hsame
  · rintro ⟨rfl, rfl⟩
    rfl

/-! ## What a request keeps of them -/

theorem exists_last?_of_mem {plan : Plan} {aggregation : NamedAggregation}
    (hmem : aggregation ∈ plan) :
    ∃ last ∈ plan, last.name = aggregation.name ∧
      plan.last? aggregation.name = some last.definition := by
  have hkept : aggregation ∈ plan.filter fun other ↦ other.name = aggregation.name := by
    simp [hmem]
  have hlast := List.getLast?_eq_some_getLast (List.ne_nil_of_mem hkept)
  have hfound := List.mem_of_getLast? hlast
  rw [List.mem_filter, decide_eq_true_eq] at hfound
  refine ⟨_, hfound.1, hfound.2, ?_⟩
  rw [Plan.last?, hlast, Option.map_some]

variable {planner properties} in
/-- The request has every aggregation of a plan exactly when no name is asked for twice, with
different fields or kinds. -/
theorem definitions_complete_iff {plan : Plan} (hplan : planner.plan properties = .ok plan) :
    (∀ aggregation ∈ plan,
        Entries.get? plan.definitions aggregation.name = some aggregation.definition) ↔
      ∀ name field kind otherField otherKind, planner.Asks properties name field kind →
        planner.Asks properties name otherField otherKind →
          field = otherField ∧ kind = otherKind := by
  constructor
  · intro hcomplete name field kind otherField otherKind hasks hother
    have hkept (field : String) (kind : AggregationKind)
        (hasks : planner.Asks properties name field kind) :
        Entries.get? plan.definitions name =
          some (planner.aggregate properties field field kind) :=
      hcomplete _ (mem_plan_of_asks hplan hasks)
    have hsame := (hkept field kind hasks).symm.trans (hkept otherField otherKind hother)
    exact (planner.aggregate_eq_iff properties).mp (Option.some.inj hsame)
  · intro hunique aggregation hmem
    obtain ⟨last, hlast, hname, hfound⟩ := exists_last?_of_mem hmem
    obtain ⟨hasks, hown⟩ := (mem_plan_iff hplan).mp hmem
    obtain ⟨hother, hothers⟩ := (mem_plan_iff hplan).mp hlast
    rw [hname] at hother
    obtain ⟨hfield, hkind⟩ := hunique _ _ _ _ _ hasks hother
    rw [Plan.get?_definitions, hfound, hothers, hown, hfield, hkind]

/-- A root may coincide with a localized one, as both ask for the terms of one field. -/
theorem definitions_complete_iff_of_coinciding_roots :
    ∃ plan, Planner.plan ⟨["en"], 0⟩ (.ofList [("name.localized", "true"), ("name.en", "")]) =
        .ok plan ∧ plan.names = ["name.en", "name.und", "name.en"] ∧
      ∀ aggregation ∈ plan,
        Entries.get? plan.definitions aggregation.name = some aggregation.definition := by
  have hread : (Planner.plan ⟨["en"], 0⟩
      (.ofList [("name.localized", "true"), ("name.en", "")])).map (fun plan ↦
        (plan.names, plan.map fun aggregation ↦
          (aggregation.name, aggregation.field, aggregation.kind))) =
      .ok (["name.en", "name.und", "name.en"], [("name.en", "name.en", .terms),
        ("name.und", "name.und", .terms), ("name.en", "name.en", .terms)]) := by
    decide
  cases hplan : Planner.plan ⟨["en"], 0⟩
      (.ofList [("name.localized", "true"), ("name.en", "")]) with
  | error fault =>
    rw [hplan] at hread
    cases hread
  | ok plan =>
    rw [hplan] at hread
    obtain ⟨hnames, hentries⟩ := Prod.mk.inj (Except.ok.inj hread)
    refine ⟨plan, rfl, hnames, (definitions_complete_iff hplan).mpr ?_⟩
    intro name field kind otherField otherKind hasks hother
    have hlisted {field : String} {kind : AggregationKind}
        (hasks : Planner.Asks ⟨["en"], 0⟩
          (.ofList [("name.localized", "true"), ("name.en", "")]) name field kind) :
        field = name ∧ kind = .terms := by
      have hentry := List.mem_map_of_mem
        (f := fun aggregation ↦ (aggregation.name, aggregation.field, aggregation.kind))
        (mem_plan_of_asks hplan hasks)
      rw [hentries] at hentry
      simp only [List.mem_cons, Prod.mk.injEq, List.not_mem_nil, or_false] at hentry
      rcases hentry with ⟨rfl, rfl, rfl⟩ | ⟨rfl, rfl, rfl⟩ | ⟨rfl, rfl, rfl⟩ <;> exact ⟨rfl, rfl⟩
    obtain ⟨hfield, hkind⟩ := hlisted hasks
    obtain ⟨hotherField, hotherKind⟩ := hlisted hother
    exact ⟨hfield.trans hotherField.symm, hkind.trans hotherKind.symm⟩

/-- Of the statistics and the terms of one field, the request has the terms only. -/
theorem definitions_lack_statistics :
    ∃ plan aggregation,
      Planner.plan ⟨[], 0⟩ (.ofList [("age.type", "stats,terms")]) = .ok plan ∧
      aggregation ∈ plan ∧
      Entries.get? plan.definitions aggregation.name ≠ some aggregation.definition := by
  have hread : (Planner.plan ⟨[], 0⟩ (.ofList [("age.type", "stats,terms")])).map (fun plan ↦
      (plan.map fun aggregation ↦ (aggregation.name, aggregation.definition.stats),
        (Entries.get? plan.definitions "age").bind Aggregation.stats)) =
      .ok ([("age", some "age"), ("age", none)], none) := by
    decide
  cases hplan : Planner.plan ⟨[], 0⟩ (.ofList [("age.type", "stats,terms")]) with
  | error fault =>
    rw [hplan] at hread
    cases hread
  | ok plan =>
    rw [hplan] at hread
    obtain ⟨hentries, hage⟩ := Prod.mk.inj (Except.ok.inj hread)
    have hfirst : ("age", some "age") ∈
        plan.map fun aggregation ↦ (aggregation.name, aggregation.definition.stats) := by
      rw [hentries]
      exact List.mem_cons_self
    obtain ⟨aggregation, hmem, hpair⟩ := List.mem_map.mp hfirst
    obtain ⟨hname, hstats⟩ := Prod.mk.inj hpair
    refine ⟨plan, aggregation, rfl, hmem, ?_⟩
    intro hfound
    rw [hname] at hfound
    rw [hfound, Option.bind_some, hstats] at hage
    cases hage

end FacetSearch.Planner
