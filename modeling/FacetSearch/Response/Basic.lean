import FacetSearch.Json.Printer

/-!
# Responses of the engine

The parts of the engine's answers that are read. The aggregations of a search response, and the
further members of a bucket, are kept as they are under their typed keys, `kind#name`.
-/

namespace FacetSearch

/-- The number of hits; the relation says whether it is exact. -/
structure HitCount where
  value : UInt64
  relation : String
deriving DecidableEq

/-- A document found by a search. -/
structure Hit where
  index : Option String
  id : String
  score : Option Binary64
  routing : Option String
  /-- The members of the document source. -/
  source : Option (StringMap Json)
deriving DecidableEq

structure Hits where
  total : Option HitCount
  maxScore : Option Binary64
  hits : List Hit
deriving DecidableEq

structure SearchResponse where
  took : UInt64
  timedOut : Bool
  hits : Hits
  aggregations : StringMap Json
deriving DecidableEq

def Hits.empty : Hits := ⟨none, none, []⟩

def SearchResponse.empty : SearchResponse := ⟨0, false, .empty, ∅⟩

/-- A bucket of a terms or range aggregation. -/
structure Bucket where
  key : Json
  keyAsString : Option String
  docCount : UInt64
  lower : Option Binary64
  upper : Option Binary64
  /-- All other members, the aggregations of the bucket among them. -/
  others : StringMap Json
deriving DecidableEq

/-- The key as text. -/
def Bucket.keyText (bucket : Bucket) : String :=
  match bucket.keyAsString, bucket.key with
  | some text, _ => text
  | none, .str text => text
  | none, key => key.compact

/-- The statistics of a field. -/
structure Stats where
  count : UInt64
  min : Option Binary64
  max : Option Binary64
  avg : Option Binary64
  sum : Option Binary64
deriving DecidableEq

/-- An error of the engine. -/
structure EngineError where
  type : String
  reason : Option String
deriving DecidableEq

/-- The reason, or else the type. -/
def EngineError.text (error : EngineError) : String := error.reason.getD error.type

/-- The outcome of one action of a bulk request. -/
structure BulkResult where
  index : Option String
  id : Option String
  result : Option String
  status : UInt16
  error : Option EngineError
deriving DecidableEq

/-- The outcome of a bulk action under the name of the action. -/
structure BulkItem where
  index : Option BulkResult
  create : Option BulkResult
  update : Option BulkResult
  delete : Option BulkResult
deriving DecidableEq

/-- The outcome under the first name that has one. -/
def BulkItem.result? (item : BulkItem) : Option BulkResult :=
  item.index <|> item.create <|> item.update <|> item.delete

structure BulkResponse where
  took : UInt64
  errors : Bool
  items : List BulkItem
deriving DecidableEq

def BulkResponse.empty : BulkResponse := ⟨0, false, []⟩

/-- The body of an answer that reports an error. -/
structure ErrorResponse where
  error : Json
  status : Option UInt16
deriving DecidableEq

namespace ErrorResponse

/-- The type of the error. -/
def errorType (response : ErrorResponse) : Option String :=
  (response.error.member? "type").bind Json.str?

/-- The text of the error, its reason, or else its type; the whole error when that is no string. -/
def reason (response : ErrorResponse) : String :=
  match response.error with
  | .str text => text
  | .obj members =>
    (((Entries.get? members "reason" <|> Entries.get? members "type").bind Json.str?)).getD
      response.error.compact
  | other => other.compact

end ErrorResponse

structure DeletionResponse where
  deleted : UInt64
  failures : List Json
deriving DecidableEq

end FacetSearch
