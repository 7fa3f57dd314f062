import FacetSearch.Query.Meaning
import FacetSearch.Search.Query
import Mathlib.Tactic

/-!
# Queries combined in groups

Search queries may be combined at once, or in consecutive groups whose results are combined: both
ask the same. The clauses differ, since the conjunction of a group is nested in that of the groups,
but they match the same documents, whatever the clauses mean that are no boolean queries.
-/

namespace FacetSearch

/-! ## What conjunctions match -/

namespace Query

variable {δ : Type} (leaf : Query → δ → Bool) (document : δ)

mutual

/-- The document matches the query, where `leaf` says so of queries that are not boolean. -/
def holds : Query → Bool
  | bool must should mustNot filter =>
    holdsAll must && holdsAll filter && !holdsAny mustNot &&
      (!must.isEmpty || !filter.isEmpty || should.isEmpty || holdsAny should)
  | query => leaf query document

/-- The document matches every query of a list. -/
def holdsAll : List Query → Bool
  | [] => true
  | query :: rest => holds query && holdsAll rest

/-- The document matches some query of a list. -/
def holdsAny : List Query → Bool
  | [] => false
  | query :: rest => holds query || holdsAny rest

end

mutual

/-- The engine's meaning is one that a choice for the leaves gives. -/
theorem holds_matches (meaning : TextQuery → FieldValues → Bool) (values : FieldValues) :
    (query : Query) → query.holds (fun query values ↦ query.matches meaning values) values =
      query.matches meaning values
  | bool must should mustNot filter => by
    rw [holds, Query.matches, holdsAll_matches meaning values must,
      holdsAll_matches meaning values filter, holdsAny_matches meaning values mustNot,
      holdsAny_matches meaning values should]
  | matchAll _ | term _ | startsWith _ | hasField _ | text _ | ids _ => by simp [holds]

theorem holdsAll_matches (meaning : TextQuery → FieldValues → Bool) (values : FieldValues) :
    (queries : List Query) →
      holdsAll (fun query values ↦ query.matches meaning values) values queries =
        matchesAll meaning values queries
  | [] => rfl
  | query :: rest => by
    rw [holdsAll, matchesAll, holds_matches meaning values query,
      holdsAll_matches meaning values rest]

theorem holdsAny_matches (meaning : TextQuery → FieldValues → Bool) (values : FieldValues) :
    (queries : List Query) →
      holdsAny (fun query values ↦ query.matches meaning values) values queries =
        matchesAny meaning values queries
  | [] => rfl
  | query :: rest => by
    rw [holdsAny, matchesAny, holds_matches meaning values query,
      holdsAny_matches meaning values rest]

end

theorem holdsAll_eq_all (queries : List Query) :
    holdsAll leaf document queries = queries.all (holds leaf document) := by
  induction queries with
  | nil => rfl
  | cons query rest ih => rw [holdsAll, ih, List.all_cons]

theorem holds_allOf (queries : List Query) :
    (allOf queries).holds leaf document = queries.all (holds leaf document) := by
  simp [allOf, holds, holdsAll, holdsAny, holdsAll_eq_all]

end Query

namespace SearchQuery

section Accepts

variable {δ : Type} (leaf : Query → δ → Bool) (document : δ)

/-- The document matches the condition, if there is one. -/
def accepts (query : SearchQuery) : Bool := query.query.all (Query.holds leaf document)

theorem holds_conjunction (clauses : List Query) :
    (conjunction clauses).all (Query.holds leaf document) =
      clauses.all (Query.holds leaf document) := by
  match clauses with
  | [] => rfl
  | [only] => simp [conjunction]
  | first :: second :: rest => simp only [conjunction, Option.all_some, Query.holds_allOf]

theorem accepts_all (queries : List SearchQuery) :
    (all queries).accepts leaf document = queries.all (accepts leaf document) := by
  rw [accepts, all, holds_conjunction, List.all_filterMap]
  congr 1

theorem accepts_iff (query : SearchQuery) :
    query.accepts leaf document = true ↔
      ∀ clause, query.query = some clause → clause.holds leaf document = true := by
  rw [accepts, Option.all_eq_true]

end Accepts

theorem conjunction_isNone (clauses : List Query) :
    (conjunction clauses).isNone = clauses.isEmpty := by
  match clauses with
  | [] | [_] | _ :: _ :: _ => rfl

theorem query_all_eq_none_iff (queries : List SearchQuery) :
    (all queries).query = none ↔ ∀ query ∈ queries, query.query = none := by
  rw [all, ← Option.isNone_iff_eq_none, conjunction_isNone, List.isEmpty_iff,
    List.filterMap_eq_nil_iff]

theorem isEmpty_iff (query : SearchQuery) :
    query.isEmpty = true ↔ query.query = none ∧ query.sort = [] := by
  rw [isEmpty, Bool.and_eq_true, Option.isNone_iff_eq_none, List.isEmpty_iff]

theorem isEmpty_all_iff (queries : List SearchQuery) :
    (all queries).isEmpty = true ↔ ∀ query ∈ queries, query.isEmpty = true := by
  have hsort : (all queries).sort = [] ↔ ∀ query ∈ queries, query.sort = [] :=
    List.flatMap_eq_nil_iff
  simp only [isEmpty_iff, query_all_eq_none_iff, hsort]
  exact forall₂_and.symm

/-! ## The conjunction of search queries -/

/-- What the conjunction of several search queries is: it has the page of the first and their orders
one after the other, it has no condition, or is empty, if that is so of them all, and it matches the
documents that match every condition there is. -/
structure Conjoins (queries : List SearchQuery) (combined : SearchQuery) : Prop where
  start : ∀ first ∈ queries.head?, combined.start = first.start
  size : ∀ first ∈ queries.head?, combined.size = first.size
  sort : combined.sort = queries.flatMap SearchQuery.sort
  unconditional : combined.query = none ↔ ∀ query ∈ queries, query.query = none
  isEmpty : combined.isEmpty = true ↔ ∀ query ∈ queries, query.isEmpty = true
  accepts : ∀ {δ : Type} (leaf : Query → δ → Bool) (document : δ),
    combined.accepts leaf document = true ↔ ∀ query ∈ queries, ∀ clause,
      query.query = some clause → clause.holds leaf document = true

/-- Two search queries ask for one page of the same documents in the same order. -/
structure AsksSame (a b : SearchQuery) : Prop where
  start : a.start = b.start
  size : a.size = b.size
  sort : a.sort = b.sort
  unconditional : a.query = none ↔ b.query = none
  isEmpty : a.isEmpty = b.isEmpty
  accepts : ∀ {δ : Type} (leaf : Query → δ → Bool) (document : δ),
    a.accepts leaf document = b.accepts leaf document

theorem conjoins_all (queries : List SearchQuery) : Conjoins queries (all queries) where
  start first hfirst := by rw [all, Option.mem_def.mp hfirst, Option.getD_some]
  size first hfirst := by rw [all, Option.mem_def.mp hfirst, Option.getD_some]
  sort := rfl
  unconditional := query_all_eq_none_iff queries
  isEmpty := isEmpty_all_iff queries
  accepts leaf document := by
    rw [accepts_all, List.all_eq_true]
    exact forall₂_congr fun query _ ↦ accepts_iff leaf document query

variable {queries : List SearchQuery} {a b : SearchQuery}

theorem Conjoins.asksSame (ha : Conjoins queries a) (hb : Conjoins queries b)
    (hqueries : queries ≠ []) : AsksSame a b := by
  obtain ⟨first, rest, rfl⟩ := List.exists_cons_of_ne_nil hqueries
  exact {
    start := (ha.start first rfl).trans (hb.start first rfl).symm
    size := (ha.size first rfl).trans (hb.size first rfl).symm
    sort := ha.sort.trans hb.sort.symm
    unconditional := ha.unconditional.trans hb.unconditional.symm
    isEmpty := Bool.eq_iff_iff.mpr (ha.isEmpty.trans hb.isEmpty.symm)
    accepts := fun leaf document ↦
      Bool.eq_iff_iff.mpr ((ha.accepts leaf document).trans (hb.accepts leaf document).symm) }

theorem exists_group_of_head {groups : List (List SearchQuery)}
    (hgroups : ∀ group ∈ groups, group ≠ []) {first : SearchQuery}
    (hfirst : first ∈ groups.flatten.head?) :
    ∃ group others, groups = group :: others ∧ first ∈ group.head? := by
  cases groups with
  | nil => simp at hfirst
  | cons group others =>
    obtain ⟨member, rest, rfl⟩ := List.exists_cons_of_ne_nil (hgroups group List.mem_cons_self)
    exact ⟨_, others, rfl, hfirst⟩

/-- The conjunction of the conjunctions of groups is that of all their members. -/
theorem conjoins_all_groups {groups : List (List SearchQuery)}
    (hgroups : ∀ group ∈ groups, group ≠ []) :
    Conjoins groups.flatten (all (groups.map all)) where
  start first hfirst := by
    obtain ⟨group, others, rfl, hhead⟩ := exists_group_of_head hgroups hfirst
    exact (conjoins_all group).start first hhead
  size first hfirst := by
    obtain ⟨group, others, rfl, hhead⟩ := exists_group_of_head hgroups hfirst
    exact (conjoins_all group).size first hhead
  sort := by
    have hsort : (all (groups.map all)).sort = groups.flatMap fun group ↦ (all group).sort :=
      List.flatMap_map ..
    rw [hsort, List.flatten_eq_flatMap, List.flatMap_assoc]
    rfl
  unconditional := by
    simp only [query_all_eq_none_iff, List.forall_mem_map]
    exact List.forall_mem_flatten.symm
  isEmpty := by
    simp only [isEmpty_all_iff, List.forall_mem_map]
    exact List.forall_mem_flatten.symm
  accepts leaf document := by
    simp only [← accepts_iff, accepts_all, List.all_eq_true, List.forall_mem_map]
    exact List.forall_mem_flatten.symm

/-- Search queries that are combined in consecutive groups and then once more ask the same as when
they are combined at once, which is their conjunction. -/
theorem all_map_all_asksSame (hqueries : queries ≠ []) {groups : List (List SearchQuery)}
    (hcut : groups.flatten = queries) (hgroups : ∀ group ∈ groups, group ≠ []) :
    AsksSame (all (groups.map all)) (all queries) ∧ Conjoins queries (all queries) := by
  have hnested : Conjoins queries (all (groups.map all)) := hcut ▸ conjoins_all_groups hgroups
  have hwhole := conjoins_all queries
  exact ⟨hnested.asksSame hwhole hqueries, hwhole⟩

/-- Of a page without a condition and two conditions, the page may be set apart. -/
theorem all_map_all_asksSame_of_page :
    let page : SearchQuery := { empty with start := 20, size := 5 }
    let named : SearchQuery := { empty with query := some (.hasField "name") }
    let typed : SearchQuery :=
      { empty with query := some (.termIs "type" (.str "study")), sort := [.bestScore] }
    ([page, named, typed] ≠ [] ∧ [[page], [named, typed]].flatten = [page, named, typed] ∧
      ∀ group ∈ [[page], [named, typed]], group ≠ []) ∧
    AsksSame (all ([[page], [named, typed]].map all)) (all [page, named, typed]) ∧
      Conjoins [page, named, typed] (all [page, named, typed]) := by
  intro page named typed
  have hqueries : [page, named, typed] ≠ [] := List.cons_ne_nil _ _
  have hgroups : ∀ group ∈ [[page], [named, typed]], group ≠ [] := by simp
  exact ⟨⟨hqueries, rfl, hgroups⟩, all_map_all_asksSame hqueries rfl hgroups⟩

end SearchQuery

end FacetSearch
