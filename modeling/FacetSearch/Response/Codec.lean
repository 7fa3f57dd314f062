import FacetSearch.Response.Basic
import FacetSearch.Json.Decode

/-!
# Responses as JSON

Reading and writing the engine's answers. All members of a bucket that have no meaning of their own
are kept verbatim; a bucket is always an object.
-/

namespace FacetSearch

open RawJson (needed optional withDefault)

def optionalFloat (x? : Option Binary64) : Json := .orNull (x?.map .float)

def optionalString (s? : Option String) : Json := .orNull (s?.map .str)

namespace HitCount

def toJson (count : HitCount) : Json :=
  .record [("value", some (.nat count.value.toNat)), ("relation", some (.str count.relation))]

def decode (raw : RawJson) : Option HitCount := do
  match ← raw.record [.required "value", .defaultable "relation"] with
  | [value, relation] => some {
      value := ← needed RawJson.uint64 value
      relation := ← withDefault "eq" RawJson.string relation }
  | _ => none

end HitCount

namespace Hit

def toJson (hit : Hit) : Json :=
  .record [("_index", some (optionalString hit.index)), ("_id", some (.str hit.id)),
    ("_score", some (optionalFloat hit.score)), ("_routing", hit.routing.map .str),
    ("_source", hit.source.map .ofMap)]

def decode (raw : RawJson) : Option Hit := do
  match ← raw.record [.defaultable "_index", .required "_id", .defaultable "_score",
    .defaultable "_routing", .defaultable "_source"] with
  | [index, id, score, routing, source] => some {
      index := ← optional RawJson.string index
      id := ← needed RawJson.string id
      score := ← optional RawJson.binary64 score
      routing := ← optional RawJson.string routing
      source := ← optional (RawJson.stringMap RawJson.toJson?) source }
  | _ => none

end Hit

namespace Hits

def toJson (hits : Hits) : Json :=
  .record [("total", some (.orNull (hits.total.map HitCount.toJson))),
    ("max_score", some (optionalFloat hits.maxScore)),
    ("hits", some (.arr (hits.hits.map Hit.toJson)))]

def decode (raw : RawJson) : Option Hits := do
  match ← raw.record [.defaultable "total", .defaultable "max_score", .defaultable "hits"] with
  | [total, maxScore, hits] => some {
      total := ← optional HitCount.decode total
      maxScore := ← optional RawJson.binary64 maxScore
      hits := ← withDefault [] (RawJson.list Hit.decode) hits }
  | _ => none

end Hits

namespace SearchResponse

def toJson (response : SearchResponse) : Json :=
  .record [("took", some (.nat response.took.toNat)), ("timed_out", some (.bool response.timedOut)),
    ("hits", some response.hits.toJson),
    ("aggregations", if response.aggregations.isEmpty then none
      else some (.ofMap response.aggregations))]

def decode (raw : RawJson) : Option SearchResponse := do
  match ← raw.record [.defaultable "took", .defaultable "timed_out", .defaultable "hits",
    .defaultable "aggregations"] with
  | [took, timedOut, hits, aggregations] => some {
      took := ← withDefault 0 RawJson.uint64 took
      timedOut := ← withDefault false RawJson.boolean timedOut
      hits := ← withDefault .empty Hits.decode hits
      aggregations := ← withDefault ∅ (RawJson.stringMap RawJson.toJson?) aggregations }
  | _ => none

end SearchResponse

namespace Bucket

/-- The members of a bucket with a meaning of their own. -/
def ownNames : List String := ["key", "key_as_string", "doc_count", "from", "to"]

def toJson (bucket : Bucket) : Json :=
  .ofMembers ([("key", some bucket.key), ("key_as_string", bucket.keyAsString.map .str),
    ("doc_count", some (.nat bucket.docCount.toNat)), ("from", bucket.lower.map .float),
    ("to", bucket.upper.map .float)].filterMap
      (fun (name, value?) ↦ value?.map fun value ↦ (name, value)) ++ bucket.others.entries)

/-- The members without a meaning of their own, as values. -/
def decodeOthers (members : List (Option String × RawJson)) : Option (StringMap Json) :=
  (RawJson.toJsonMembers? (members.filter fun member ↦
    !(member.1.any ownNames.contains))).map StringMap.ofList

def decode : RawJson → Option Bucket
  | .obj members => do
    let others ← decodeOthers members
    match ← RawJson.memberFields [.required "key", .defaultable "key_as_string",
      .required "doc_count", .defaultable "from", .defaultable "to"] members with
    | [key, keyAsString, docCount, lower, upper] => some {
        key := ← needed RawJson.toJson? key
        keyAsString := ← optional RawJson.string keyAsString
        docCount := ← needed RawJson.uint64 docCount
        lower := ← optional RawJson.binary64 lower
        upper := ← optional RawJson.binary64 upper
        others := others }
    | _ => none
  | _ => none

/-- Decodes the buckets of a terms or range aggregation. -/
def decodeAll (raw : RawJson) : Option (List Bucket) := do
  match ← raw.record [.defaultable "buckets"] with
  | [buckets] => withDefault [] (RawJson.list decode) buckets
  | _ => none

end Bucket

def Stats.decode (raw : RawJson) : Option Stats := do
  match ← raw.record [.required "count", .required "min", .required "max", .required "avg",
    .required "sum"] with
  | [count, min, max, avg, sum] => some {
      count := ← needed RawJson.uint64 count
      min := ← optional RawJson.binary64 min
      max := ← optional RawJson.binary64 max
      avg := ← optional RawJson.binary64 avg
      sum := ← optional RawJson.binary64 sum }
  | _ => none

namespace EngineError

def toJson (error : EngineError) : Json :=
  .record [("type", some (.str error.type)), ("reason", some (optionalString error.reason))]

def decode (raw : RawJson) : Option EngineError := do
  match ← raw.record [.required "type", .defaultable "reason"] with
  | [type, reason] => some {
      type := ← needed RawJson.string type
      reason := ← optional RawJson.string reason }
  | _ => none

end EngineError

namespace BulkResult

def toJson (result : BulkResult) : Json :=
  .record [("_index", some (optionalString result.index)), ("_id", some (optionalString result.id)),
    ("result", result.result.map .str), ("status", some (.nat result.status.toNat)),
    ("error", result.error.map EngineError.toJson)]

def decode (raw : RawJson) : Option BulkResult := do
  match ← raw.record [.defaultable "_index", .defaultable "_id", .defaultable "result",
    .required "status", .defaultable "error"] with
  | [index, id, result, status, error] => some {
      index := ← optional RawJson.string index
      id := ← optional RawJson.string id
      result := ← optional RawJson.string result
      status := ← needed RawJson.uint16 status
      error := ← optional EngineError.decode error }
  | _ => none

end BulkResult

namespace BulkItem

def toJson (item : BulkItem) : Json :=
  .record [("index", item.index.map BulkResult.toJson),
    ("create", item.create.map BulkResult.toJson), ("update", item.update.map BulkResult.toJson),
    ("delete", item.delete.map BulkResult.toJson)]

def decode (raw : RawJson) : Option BulkItem := do
  match ← raw.record [.required "index", .required "create", .required "update",
    .required "delete"] with
  | [index, create, update, delete] => some {
      index := ← optional BulkResult.decode index
      create := ← optional BulkResult.decode create
      update := ← optional BulkResult.decode update
      delete := ← optional BulkResult.decode delete }
  | _ => none

end BulkItem

namespace BulkResponse

def toJson (response : BulkResponse) : Json :=
  .record [("took", some (.nat response.took.toNat)), ("errors", some (.bool response.errors)),
    ("items", some (.arr (response.items.map BulkItem.toJson)))]

def decode (raw : RawJson) : Option BulkResponse := do
  match ← raw.record [.defaultable "took", .defaultable "errors", .defaultable "items"] with
  | [took, errors, items] => some {
      took := ← withDefault 0 RawJson.uint64 took
      errors := ← withDefault false RawJson.boolean errors
      items := ← withDefault [] (RawJson.list BulkItem.decode) items }
  | _ => none

end BulkResponse

namespace ErrorResponse

def toJson (response : ErrorResponse) : Json :=
  .record [("error", some response.error),
    ("status", some (.orNull (response.status.map fun status ↦ .nat status.toNat)))]

def decode (raw : RawJson) : Option ErrorResponse := do
  match ← raw.record [.required "error", .defaultable "status"] with
  | [error, status] => some {
      error := ← needed RawJson.toJson? error
      status := ← optional RawJson.uint16 status }
  | _ => none

end ErrorResponse

/-- A count of documents. -/
def decodeCount (raw : RawJson) : Option UInt64 := do
  match ← raw.record [.required "count"] with
  | [count] => needed RawJson.uint64 count
  | _ => none

def encodeCount (count : UInt64) : Json := .obj [("count", .nat count.toNat)]

/-- The count of a global aggregation. -/
def decodeDocCount (raw : RawJson) : Option UInt64 := do
  match ← raw.record [.required "doc_count"] with
  | [count] => needed RawJson.uint64 count
  | _ => none

namespace DeletionResponse

def toJson (response : DeletionResponse) : Json :=
  .record [("deleted", some (.nat response.deleted.toNat)),
    ("failures", some (.arr response.failures))]

def decode (raw : RawJson) : Option DeletionResponse := do
  match ← raw.record [.defaultable "deleted", .defaultable "failures"] with
  | [deleted, failures] => some {
      deleted := ← withDefault 0 RawJson.uint64 deleted
      failures := ← withDefault [] (RawJson.list RawJson.toJson?) failures }
  | _ => none

end DeletionResponse

end FacetSearch
