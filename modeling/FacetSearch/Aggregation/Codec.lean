import FacetSearch.Aggregation.Basic
import FacetSearch.Query.Codec

/-!
# Aggregations and search requests as JSON

The aggregations of a request, and those below an aggregation, are read under the name `aggs` or
`aggregations` and written under `aggs`.
-/

namespace FacetSearch

/-- An optional 64-bit count as a member. -/
def countJson (count : UInt64) : Json := .nat count.toNat

def TermsAggregation.toJson (terms : TermsAggregation) : Json :=
  .record [("field", some (.str terms.field)), ("size", terms.size.map countJson),
    ("order", terms.order.map fun order ↦ .ofMap (order.map SortDirection.toJson)),
    ("min_doc_count", terms.minDocCount.map countJson)]

def TermsAggregation.decode (raw : RawJson) : Option TermsAggregation := do
  match ← raw.record [.required "field", .defaultable "size", .defaultable "order",
    .defaultable "min_doc_count"] with
  | [field, size, order, minDocCount] => some {
      field := ← RawJson.needed RawJson.string field
      size := ← RawJson.optional RawJson.uint64 size
      order := ← RawJson.optional (RawJson.stringMap SortDirection.decode) order
      minDocCount := ← RawJson.optional RawJson.uint64 minDocCount }
  | _ => none

def RangeInterval.toJson (interval : RangeInterval) : Json :=
  .record [("key", interval.key.map .str), ("from", interval.lower.map .float),
    ("to", interval.upper.map .float)]

def RangeInterval.decode (raw : RawJson) : Option RangeInterval := do
  match ← raw.record [.defaultable "key", .defaultable "from", .defaultable "to"] with
  | [key, lower, upper] => some {
      key := ← RawJson.optional RawJson.string key
      lower := ← RawJson.optional RawJson.binary64 lower
      upper := ← RawJson.optional RawJson.binary64 upper }
  | _ => none

def RangeAggregation.toJson (range : RangeAggregation) : Json :=
  .record [("field", some (.str range.field)),
    ("ranges", some (.arr (range.ranges.map RangeInterval.toJson)))]

def RangeAggregation.decode (raw : RawJson) : Option RangeAggregation := do
  match ← raw.record [.required "field", .required "ranges"] with
  | [field, ranges] => some {
      field := ← RawJson.needed RawJson.string field
      ranges := ← RawJson.needed (RawJson.list RangeInterval.decode) ranges }
  | _ => none

namespace Aggregation

def statsJson (field : String) : Json := .obj [("field", .str field)]

def decodeStats (raw : RawJson) : Option String := do
  match ← raw.record [.required "field"] with
  | [field] => RawJson.needed RawJson.string field
  | _ => none

mutual

/-- The JSON form of an aggregation. -/
def toJson : Aggregation → Json
  | ⟨terms, stats, range, global, nested⟩ => .record [
      ("terms", terms.map TermsAggregation.toJson), ("stats", stats.map statsJson),
      ("range", range.map RangeAggregation.toJson),
      ("global", if global then some (.obj []) else none),
      ("aggs", if nested.isEmpty then none else some (.obj (membersJson nested)))]

/-- The JSON forms of named aggregations. -/
def membersJson : List (String × Aggregation) → List (String × Json)
  | [] => []
  | (name, aggregation) :: rest => (name, toJson aggregation) :: membersJson rest

end

/-- The field of the aggregations below. -/
def nestedField : Field := ⟨"aggs", ["aggregations"], true⟩

/-- Decodes an aggregation that is nested at most `depth` levels deep. -/
def decodeWithin : (depth : Nat) → RawJson → Option Aggregation
  | 0, _ => none
  | depth + 1, raw => do
    match ← raw.record [.defaultable "terms", .defaultable "stats", .defaultable "range",
      .defaultable "global", nestedField] with
    | [terms, stats, range, global, nested] => some {
        terms := ← RawJson.optional TermsAggregation.decode terms
        stats := ← RawJson.optional decodeStats stats
        range := ← RawJson.optional RangeAggregation.decode range
        global := (← RawJson.optional (RawJson.record []) global).isSome
        nested := Entries.sorted
          (← RawJson.withDefault [] (RawJson.entries (decodeWithin depth)) nested) }
    | _ => none

def decode (raw : RawJson) : Option Aggregation := decodeWithin raw.depth raw

end Aggregation

namespace SearchRequest

/-- The JSON form of a request, with boosts written as given. -/
def written (boostForm : Binary32 → Json) (request : SearchRequest) : Json :=
  .record [("query", request.query.map (Query.written boostForm)),
    ("from", request.start.map countJson), ("size", request.size.map countJson),
    ("_source", request.source.map SourceFilter.toJson),
    ("aggs", if request.aggregations.isEmpty then none
      else some (.obj (Aggregation.membersJson request.aggregations))),
    ("sort", if request.sort.isEmpty then none
      else some (.arr (request.sort.map SortClause.toJson))),
    ("track_total_hits", request.totalHits.map TotalHits.toJson)]

/-- The JSON form of a request as a value. -/
def toJson : SearchRequest → Json := written Query.boostJson

/-- The JSON form of a request as it is sent. -/
def sent : SearchRequest → Json := written Query.shortBoostJson

def decode (raw : RawJson) : Option SearchRequest := do
  match ← raw.record [.defaultable "query", .defaultable "from", .defaultable "size",
    .defaultable "_source", Aggregation.nestedField, .defaultable "sort",
    .defaultable "track_total_hits"] with
  | [query, start, size, source, aggregations, sort, totalHits] => some {
      query := ← RawJson.optional Query.decode query
      start := ← RawJson.optional RawJson.uint64 start
      size := ← RawJson.optional RawJson.uint64 size
      source := ← RawJson.optional SourceFilter.decode source
      aggregations := Entries.sorted
        (← RawJson.withDefault [] (RawJson.entries Aggregation.decode) aggregations)
      sort := ← RawJson.withDefault [] (RawJson.list SortClause.decode) sort
      totalHits := ← RawJson.optional TotalHits.decode totalHits }
  | _ => none

end SearchRequest

end FacetSearch
