import FacetSearch.Query.Basic

/-!
# Aggregations

The definitions of the aggregations that a search request asks for: the distinct terms of a field,
the statistics of a field, ranges of a field, and the count of all documents. Aggregations that
stand below another one are computed within each of its buckets.
-/

namespace FacetSearch

/-- The greatest number of buckets that is asked for. -/
def greatestTermsSize : UInt64 := 32767

/-- The buckets of the distinct values of a field. -/
structure TermsAggregation where
  field : String
  size : Option UInt64
  order : Option (StringMap SortDirection)
  minDocCount : Option UInt64
deriving DecidableEq

/-- An interval of numbers; an absent bound leaves a side open. -/
structure RangeInterval where
  key : Option String
  lower : Option Binary64
  upper : Option Binary64
deriving DecidableEq

/-- The buckets of given intervals of a field. -/
structure RangeAggregation where
  field : String
  ranges : List RangeInterval
deriving DecidableEq

/-- An aggregation with the aggregations below it. -/
structure Aggregation where
  terms : Option TermsAggregation
  /-- The field whose statistics are asked for. -/
  stats : Option String
  range : Option RangeAggregation
  /-- The count of all documents is asked for. -/
  global : Bool
  nested : List (String × Aggregation)

namespace Aggregation

def ofTerms (terms : TermsAggregation) : Aggregation := ⟨some terms, none, none, false, []⟩

def ofStats (field : String) : Aggregation := ⟨none, some field, none, false, []⟩

def ofRange (range : RangeAggregation) : Aggregation := ⟨none, none, some range, false, []⟩

/-- The count of all documents. -/
def everything : Aggregation := ⟨none, none, none, true, []⟩

/-- All distinct values of a field. -/
def allTerms (field : String) : Aggregation :=
  ofTerms ⟨field, some greatestTermsSize, none, none⟩

/-- The field that is read. -/
def field? (aggregation : Aggregation) : Option String :=
  aggregation.terms.map TermsAggregation.field <|> aggregation.stats <|>
    aggregation.range.map RangeAggregation.field

/-- The aggregation with others below it; of those with one name, the last. -/
def withNested (aggregation : Aggregation) (others : List (String × Aggregation)) : Aggregation :=
  ⟨aggregation.terms, aggregation.stats, aggregation.range, aggregation.global,
    others.foldl (fun nested entry ↦ Entries.insert nested entry.1 entry.2) aggregation.nested⟩

end Aggregation

/-- A request for a search. -/
structure SearchRequest where
  query : Option Query
  start : Option UInt64
  size : Option UInt64
  source : Option SourceFilter
  aggregations : List (String × Aggregation)
  sort : List SortClause
  totalHits : Option TotalHits

/-- The request that asks for nothing in particular. -/
def SearchRequest.empty : SearchRequest := ⟨none, none, none, none, [], [], none⟩

end FacetSearch
