import FacetSearch.Results

/-!
# Results as JSON

Results are shown with their members in the order of a reader's interest, not of their names; only
the source of a document has its members in ascending order.
-/

namespace FacetSearch

def DocumentResult.toJson (document : DocumentResult) : Json :=
  .obj [("id", .str document.id), ("index", .orNull (document.index.map .str)),
    ("score", optionalFloat document.score), ("source", .orNull (document.source.map .ofMap)),
    ("class_name", .orNull (document.className.map .str))]

/-- The members that show statistics. -/
def Stats.members (stats : Stats) : List (String × Json) :=
  [("count", .nat stats.count.toNat), ("min", optionalFloat stats.min),
    ("max", optionalFloat stats.max), ("avg", optionalFloat stats.avg),
    ("sum", optionalFloat stats.sum)]

mutual

/-- The value of an aggregation with its type in front. -/
def AggregationValue.toJson : AggregationValue → Json
  | .global count => .obj [("type", .str "global"), ("doc_count", .nat count.toNat)]
  | .terms buckets => .obj [("type", .str "terms"), ("buckets", .arr (termsJson buckets))]
  | .stats stats => .obj (("type", .str "stats") :: stats.members)
  | .range buckets => .obj [("type", .str "range"), ("buckets", .arr (rangesJson buckets))]

/-- The buckets of the values of a field. -/
def termsJson : List TermsBucket → List Json
  | [] => []
  | .mk key count aggregations :: rest =>
    .obj [("key", .str key), ("doc_count", .nat count.toNat),
      ("aggregations", .arr (namedValuesJson aggregations))] :: termsJson rest

/-- The buckets of intervals. -/
def rangesJson : List RangeBucket → List Json
  | [] => []
  | .mk key lower upper count aggregations :: rest =>
    .obj [("key", .str key), ("from", optionalFloat lower), ("to", optionalFloat upper),
      ("doc_count", .nat count.toNat),
      ("aggregations", .arr (namedValuesJson aggregations))] :: rangesJson rest

/-- Aggregations with their names. -/
def namedValuesJson : List (String × AggregationValue) → List Json
  | [] => []
  | (name, value) :: rest =>
    .obj [("name", .str name), ("value", value.toJson)] :: namedValuesJson rest

end

def SearchResults.toJson (results : SearchResults) : Json :=
  .obj [("total", .nat results.total.toNat),
    ("documents", .arr (results.documents.map DocumentResult.toJson)),
    ("aggregations", .arr (namedValuesJson results.aggregations))]

end FacetSearch
