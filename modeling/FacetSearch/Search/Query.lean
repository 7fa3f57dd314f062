import FacetSearch.Query.Codec
import FacetSearch.Text.Blank
import FacetSearch.Error

/-!
# Search queries

A search query is what a caller asks of a search: a page, a condition, an order, a projection, and
the fields to aggregate by. Query text is compiled to one; several are combined to the one that
asks for all of their conditions.
-/

namespace FacetSearch

/-- The page size of a query that does not set one. -/
def defaultSize : UInt64 := 10

structure SearchQuery where
  start : UInt64
  size : UInt64
  query : Option Query
  sort : List SortClause
  /-- The fields whose buckets have the aggregations of the request below them. -/
  bucketFields : List String
  sourceFields : Option (List String)
  /-- The fields whose distinct values are counted. -/
  countedFields : List String

namespace SearchQuery

def empty : SearchQuery := ⟨0, defaultSize, none, [], [], none, []⟩

/-- Neither a condition nor an order is set. -/
def isEmpty (query : SearchQuery) : Bool := query.query.isNone && query.sort.isEmpty

/-- The condition that all of several conditions hold. -/
def conjunction : List Query → Option Query
  | [] => none
  | [only] => some only
  | several => some (.allOf several)

/-- The page of the first query, all conditions, and the orders one after the other. -/
def all (queries : List SearchQuery) : SearchQuery :=
  let first := queries.head?.getD empty
  { empty with
    start := first.start
    size := first.size
    query := conjunction (queries.filterMap SearchQuery.query)
    sort := queries.flatMap SearchQuery.sort }

end SearchQuery

/-- How query text becomes a search query. -/
inductive Compiler where
  /-- Text that is not blank is a query in the engine's text syntax. -/
  | text (size : UInt64) (defaultOperator : Option String)
  /-- Every text stands for one query. -/
  | fixed (query : SearchQuery)

namespace Compiler

def standard : Compiler := text defaultSize none

def compile (compiler : Compiler) (input : String) : SearchQuery :=
  match compiler with
  | fixed query => query
  | text size defaultOperator =>
    let trimmed := Text.trimmed input
    { SearchQuery.empty with
      size := size
      query := if trimmed.isEmpty then none
        else some (.text ⟨trimmed, none, none, defaultOperator⟩) }

end Compiler

end FacetSearch
