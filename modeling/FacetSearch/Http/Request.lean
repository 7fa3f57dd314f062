import FacetSearch.Engine.Call
import FacetSearch.Url.Basic

/-!
# Requests

Every call of the engine but an empty bulk call is one request. Its address is the base URL with the
index, and what of it is meant, as further segments.
-/

namespace FacetSearch

namespace Http

inductive Method where
  | head
  | get
  | post
  | put
  | delete
deriving DecidableEq

def Method.name : Method → String
  | head => "HEAD"
  | get => "GET"
  | post => "POST"
  | put => "PUT"
  | delete => "DELETE"

/-- What a request carries. -/
inductive Payload where
  | json (value : Json)
  /-- One JSON text on each line. -/
  | lines (text : String)
deriving DecidableEq

namespace Payload

def contentType : Payload → String
  | json _ => "application/json"
  | lines _ => "application/x-ndjson"

def text : Payload → String
  | json value => value.compact
  | lines text => text

end Payload

structure Request where
  method : Method
  url : Url
  payload : Option Payload
deriving DecidableEq

end Http

namespace Call

open Http (Method Payload Request)

def method : Call → Method
  | indexExists _ => .head
  | getMapping _ => .get
  | createIndex .. | putMapping .. | indexDocument .. => .put
  | deleteIndex _ | deleteDocument .. => .delete
  | search .. | count .. | bulk .. | deleteByQuery .. => .post

/-- The segments that follow those of the base URL. -/
def segments : Call → List String
  | indexExists index | createIndex index _ | deleteIndex index => [index]
  | putMapping index _ | getMapping index => [index, "_mapping"]
  | search index _ => [index, "_search"]
  | count index _ => [index, "_count"]
  | indexDocument index id _ _ | deleteDocument index id => [index, "_doc", id]
  | bulk index _ => [index, "_bulk"]
  | deleteByQuery index _ => [index, "_delete_by_query"]

/-- The parameters of the address. -/
def parameters : Call → List (String × String)
  | search .. => [("typed_keys", "true")]
  | indexDocument _ _ _ (some routing) => [("routing", routing)]
  | _ => []

/-- A query as the body of a call. -/
def queryBody (query : Query) : Json := .obj [("query", query.toJson)]

def payload : Call → Option Payload
  | createIndex _ body => some (.json body)
  | putMapping _ mapping => some (.json mapping)
  | search _ request => some (.json request.sent)
  | count _ query | deleteByQuery _ query => some (.json (queryBody query))
  | indexDocument _ _ document _ => some (.json document)
  | bulk index actions => some (.lines (bulkBody index actions))
  | indexExists _ | deleteIndex _ | getMapping _ | deleteDocument .. => none

/-- The address of a call. -/
def url (base : Url) (call : Call) : Url :=
  call.parameters.foldl (fun url parameter ↦ url.withParameter parameter.1 parameter.2)
    (base.withSegments call.segments)

/-- The request of a call. -/
def request (base : Url) (call : Call) : Request := ⟨call.method, call.url base, call.payload⟩

/-- The reply to a call for which there is nothing to request. -/
def idleReply? : (call : Call) → Option call.Reply
  | bulk _ [] => some BulkResponse.empty
  | _ => none

end Call

end FacetSearch
